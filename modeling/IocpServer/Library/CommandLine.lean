import IocpServer.Library.ByteStrings

/-!
# The arguments of a command line

The rules by which a C program on Windows finds its arguments.  Blanks
separate arguments except in quotes.  Backslashes are meant as they stand but
in front of a quote: there two of them are one, and a single one makes the
quote a byte of the argument.  In quotes a doubled quote is one such byte.
-/

namespace IocpServer.Library

/-- A blank. -/
def blank : UInt8 := 32

/-- A double quote. -/
def quote : UInt8 := 34

/-- A backslash. -/
def backslash : UInt8 := 92

/-- A space or a tab. -/
def isBlank (byte : UInt8) : Bool :=
  byte == blank || byte == 9

/-- Where the reading of the arguments is. -/
inductive ArgumentState where
  | between
  | unquoted
  | quoted
  /-- Behind a quote that ends the quotes unless another one follows. -/
  | closing
deriving DecidableEq, Repr

/-- The state behind a byte that is no quote. -/
def ArgumentState.behindByte : ArgumentState → ArgumentState
  | .quoted => .quoted
  | _ => .unquoted

/-- The state behind a quote without a backslash. -/
def ArgumentState.behindQuote : ArgumentState → ArgumentState
  | .quoted => .closing
  | _ => .quoted

/--
The arguments in a text, behind the beginning of an argument and some
backslashes.
-/
def readArguments
    (state : ArgumentState) (slashes : Nat) (argument : ByteString) :
    ByteString → List ByteString
  | [] =>
      if state = .between then
        []
      else
        [argument ++ List.replicate slashes backslash]
  | byte :: text =>
      if isBlank byte ∧ state ≠ .quoted then
        if state = .between then
          readArguments .between 0 [] text
        else
          (argument ++ List.replicate slashes backslash)
            :: readArguments .between 0 [] text
      else if byte = backslash then
        readArguments state.behindByte (slashes + 1) argument text
      else if byte = quote then
        if slashes % 2 = 1 then
          readArguments state.behindByte 0
            (argument ++ List.replicate (slashes / 2) backslash ++ [quote])
            text
        else if state = .closing then
          readArguments .quoted 0 (argument ++ [quote]) text
        else
          readArguments state.behindQuote 0
            (argument ++ List.replicate (slashes / 2) backslash) text
      else
        readArguments state.behindByte 0
          (argument ++ List.replicate slashes backslash ++ [byte]) text

/-- The name of the program, which ends at a blank, and what is behind it. -/
def readProgramName (inQuotes : Bool) :
    ByteString → ByteString × ByteString
  | [] => ([], [])
  | byte :: text =>
      if byte = quote then
        readProgramName (!inQuotes) text
      else if isBlank byte ∧ inQuotes = false then
        ([], text)
      else
        let (name, rest) := readProgramName inQuotes text
        (byte :: name, rest)

/-- `argv` of a command line. -/
def argumentsOf (commandLine : ByteString) : List ByteString :=
  let (name, rest) := readProgramName false commandLine
  name :: readArguments .between 0 [] rest

/-- A text without blanks and quotes. -/
def Unbroken (text : ByteString) : Prop :=
  ∀ byte ∈ text, isBlank byte = false ∧ byte ≠ quote

instance (text : ByteString) : Decidable (Unbroken text) :=
  List.decidableBAll (fun byte => isBlank byte = false ∧ byte ≠ quote) text

example :
    argumentsOf (literal "a.exe \"b c\" d\\\"e \"f\"\"g\" \\\\\"h\"") =
      [literal "a.exe", literal "b c", literal "d\"e", literal "f\"g",
        literal "\\h"] := by
  decide

/-! ## Unbroken texts -/

theorem Unbroken.tail {byte : UInt8} {text : ByteString}
    (unbroken : Unbroken (byte :: text)) : Unbroken text :=
  fun later present => unbroken later (List.mem_cons_of_mem byte present)

theorem readProgramName_unbroken {name : ByteString}
    (unbroken : Unbroken name) (rest : ByteString) :
    readProgramName false (name ++ blank :: rest) = (name, rest) := by
  induction name with
  | nil => rfl
  | cons byte name recursive =>
      have first := unbroken byte List.mem_cons_self
      rw [List.cons_append, readProgramName, if_neg first.2, if_neg,
        recursive unbroken.tail]
      rintro ⟨isBlank, -⟩
      rw [first.1] at isBlank
      cases isBlank

/-- The arguments behind an unbroken name of a program. -/
theorem argumentsOf_unbroken {name : ByteString}
    (unbroken : Unbroken name) (rest : ByteString) :
    argumentsOf (name ++ blank :: rest) =
      name :: readArguments .between 0 [] rest := by
  rw [argumentsOf, readProgramName_unbroken unbroken]

/-- An unbroken text goes into the argument as it is. -/
theorem readArguments_append_of_unbroken {text : ByteString}
    (unbroken : Unbroken text) (slashes : Nat) (argument rest : ByteString) :
    ∃ behindSlashes behind,
      readArguments .unquoted slashes argument (text ++ rest) =
          readArguments .unquoted behindSlashes behind rest ∧
        behind ++ List.replicate behindSlashes backslash =
          argument ++ List.replicate slashes backslash ++ text := by
  induction text generalizing slashes argument with
  | nil => exact ⟨slashes, argument, rfl, (List.append_nil _).symm⟩
  | cons byte text recursive =>
      have first := unbroken byte List.mem_cons_self
      have notBlank :
          ¬ (isBlank byte = true ∧
            ArgumentState.unquoted ≠ ArgumentState.quoted) := by
        rw [first.1]
        nofun
      rw [List.cons_append, readArguments, if_neg notBlank]
      by_cases slash : byte = backslash
      · rw [if_pos slash]
        rcases recursive unbroken.tail (slashes + 1) argument with
          ⟨behindSlashes, behind, read, same⟩
        refine ⟨behindSlashes, behind, read, ?_⟩
        rw [same, slash, List.replicate_succ', List.append_assoc,
          List.append_assoc, List.append_assoc]
        rfl
      · rw [if_neg slash, if_neg first.2]
        rcases recursive unbroken.tail 0
            (argument ++ List.replicate slashes backslash ++ [byte]) with
          ⟨behindSlashes, behind, read, same⟩
        refine ⟨behindSlashes, behind, read, ?_⟩
        rw [same, List.replicate_zero, List.append_nil, List.append_assoc _ [byte]]
        rfl

/-- An argument begins at a byte that is no blank. -/
theorem readArguments_between_of_not_blank
    {byte : UInt8} (notBlank : isBlank byte = false) (text : ByteString) :
    readArguments .between 0 [] (byte :: text) =
      readArguments .unquoted 0 [] (byte :: text) := by
  rw [readArguments, readArguments, notBlank]
  rfl

theorem readArguments_between_of_blank
    {byte : UInt8} (isBlank : isBlank byte = true) (text : ByteString) :
    readArguments .between 0 [] (byte :: text) =
      readArguments .between 0 [] text := by
  rw [readArguments, isBlank]
  rfl

/-- An argument begins at an unbroken text. -/
theorem readArguments_between_append {text : ByteString}
    (unbroken : Unbroken text) (some : text ≠ []) (rest : ByteString) :
    readArguments .between 0 [] (text ++ rest) =
      readArguments .unquoted 0 [] (text ++ rest) := by
  cases text with
  | nil => exact absurd rfl some
  | cons byte text =>
      exact
        readArguments_between_of_not_blank
          (unbroken byte List.mem_cons_self).1 _

/-- An unbroken text in front of a blank is an argument. -/
theorem readArguments_of_unbroken {text : ByteString}
    (unbroken : Unbroken text) (some : text ≠ []) (rest : ByteString) :
    readArguments .between 0 [] (text ++ blank :: rest) =
      text :: readArguments .between 0 [] rest := by
  rcases readArguments_append_of_unbroken unbroken 0 [] (blank :: rest) with
    ⟨behindSlashes, behind, read, whole⟩
  rw [readArguments_between_append unbroken some, read]
  change (behind ++ List.replicate behindSlashes backslash) :: _ = _
  rw [whole]
  rfl

/-- An unbroken text at the end is the last argument. -/
theorem readArguments_of_unbroken_end {text : ByteString}
    (unbroken : Unbroken text) (some : text ≠ []) :
    readArguments .between 0 [] text = [text] := by
  rcases readArguments_append_of_unbroken unbroken 0 [] [] with
    ⟨behindSlashes, behind, read, whole⟩
  have between := readArguments_between_append unbroken some []
  rw [read, List.append_nil] at between
  rw [between]
  change [behind ++ List.replicate behindSlashes backslash] = _
  rw [whole]
  rfl

/-! ## Any text in front of a blank -/

/-- A byte is read, and the argument goes on. -/
structure ReadsByte
    (state : ArgumentState) (slashes : Nat) (argument : ByteString)
    (byte : UInt8)
    (next : ArgumentState) (nextSlashes : Nat) (nextArgument : ByteString) :
    Prop where
  read :
    ∀ text,
      readArguments state slashes argument (byte :: text) =
        readArguments next nextSlashes nextArgument text
  inside : next ≠ .between
  length :
    nextArgument.length + nextSlashes ≤ argument.length + slashes + 1
  shorter :
    byte = quote → state ≠ .closing →
      nextArgument.length + nextSlashes < argument.length + slashes + 1
  notClosing : byte ≠ quote → next ≠ .closing
  unquoted :
    state ≠ .quoted → byte ≠ quote →
      isBlank byte = false ∧ next ≠ .quoted
  quoted : state = .quoted → byte ≠ quote → next = .quoted
  bytes :
    ∀ other ∈ nextArgument,
      other ∈ argument ∨ other = backslash ∨ other = byte

section Bytes

variable {state : ArgumentState} {slashes : Nat} {argument : ByteString}

theorem behindByte_eq_quoted_iff (state : ArgumentState) :
    state.behindByte = .quoted ↔ state = .quoted := by
  cases state <;> decide

theorem behindByte_ne (state : ArgumentState) :
    state.behindByte ≠ .between ∧ state.behindByte ≠ .closing := by
  cases state <;> decide

/-- A byte of an argument with backslashes and one byte behind it. -/
theorem mem_or_of_mem_append {count : Nat} {last other : UInt8}
    (present :
      other ∈ argument ++ List.replicate count backslash ++ [last]) :
    other ∈ argument ∨ other = backslash ∨ other = last := by
  rcases List.mem_append.mp present with grown | isLast
  · exact
      (List.mem_append.mp grown).imp_right fun slash =>
        .inl (List.eq_of_mem_replicate slash)
  · exact .inr (.inr (List.mem_singleton.mp isLast))

/-- A byte that is no quote leaves the state as it is. -/
theorem readsByte_of_ne_quote {byte : UInt8} {nextSlashes : Nat}
    {nextArgument : ByteString}
    (noQuote : byte ≠ quote)
    (goesOn : ¬ (isBlank byte = true ∧ state ≠ .quoted))
    (read :
      ∀ text,
        readArguments state slashes argument (byte :: text) =
          readArguments state.behindByte nextSlashes nextArgument text)
    (length :
      nextArgument.length + nextSlashes ≤ argument.length + slashes + 1)
    (bytes :
      ∀ other ∈ nextArgument,
        other ∈ argument ∨ other = backslash ∨ other = byte) :
    ReadsByte state slashes argument byte state.behindByte nextSlashes
      nextArgument where
  read := read
  inside := (behindByte_ne state).1
  length := length
  shorter := fun isQuote => absurd isQuote noQuote
  notClosing := fun _ => (behindByte_ne state).2
  unquoted := by
    intro unquoted _
    refine ⟨?_, (not_congr (behindByte_eq_quoted_iff state)).mpr unquoted⟩
    cases isIt : isBlank byte with
    | false => rfl
    | true => exact absurd ⟨isIt, unquoted⟩ goesOn
  quoted := fun quoted _ => (behindByte_eq_quoted_iff state).mpr quoted
  bytes := bytes

/-- A quote is not counted twice, unless it is the second of two. -/
theorem readsByte_of_quote {next : ArgumentState} {nextSlashes : Nat}
    {nextArgument : ByteString}
    (inside : next ≠ .between)
    (read :
      ∀ text,
        readArguments state slashes argument (quote :: text) =
          readArguments next nextSlashes nextArgument text)
    (length :
      nextArgument.length + nextSlashes ≤ argument.length + slashes + 1)
    (shorter :
      state ≠ .closing →
        nextArgument.length + nextSlashes < argument.length + slashes + 1)
    (bytes :
      ∀ other ∈ nextArgument,
        other ∈ argument ∨ other = backslash ∨ other = quote) :
    ReadsByte state slashes argument quote next nextSlashes nextArgument where
  read := read
  inside := inside
  length := length
  shorter := fun _ => shorter
  notClosing := fun noQuote => absurd rfl noQuote
  unquoted := fun _ noQuote => absurd rfl noQuote
  quoted := fun _ noQuote => absurd rfl noQuote
  bytes := bytes

/-- Every byte is read but a blank that ends the argument. -/
theorem readsByte_of_not_end {byte : UInt8}
    (goesOn : ¬ (isBlank byte = true ∧ state ≠ .quoted)) :
    ∃ next nextSlashes nextArgument,
      ReadsByte state slashes argument byte next nextSlashes
        nextArgument := by
  have step (text : ByteString) :=
    readArguments.eq_2 state slashes argument byte text
  simp only [if_neg goesOn] at step
  by_cases slash : byte = backslash
  · have noQuote : byte ≠ quote := by
      rw [slash]
      decide
    simp only [if_pos slash] at step
    exact
      ⟨_, _, _,
        readsByte_of_ne_quote noQuote goesOn step (by omega)
          fun _ present => .inl present⟩
  · simp only [if_neg slash] at step
    by_cases isQuote : byte = quote
    · simp only [if_pos isQuote] at step
      subst isQuote
      by_cases odd : slashes % 2 = 1
      · simp only [if_pos odd] at step
        exact
          ⟨_, _, _,
            readsByte_of_quote (behindByte_ne state).1 step
              (by simp; omega) (fun _ => by simp; omega)
              fun _ => mem_or_of_mem_append⟩
      · simp only [if_neg odd] at step
        by_cases closing : state = .closing
        · simp only [if_pos closing] at step
          have bytes (other : UInt8) (present : other ∈ argument ++ [quote]) :
              other ∈ argument ∨ other = backslash ∨ other = quote :=
            (List.mem_append.mp present).imp_right fun last =>
              .inr (List.mem_singleton.mp last)
          have inside : ArgumentState.quoted ≠ .between := nofun
          exact
            ⟨_, _, _,
              readsByte_of_quote inside step (by simp)
                (fun notClosing => absurd closing notClosing) bytes⟩
        · simp only [if_neg closing] at step
          have inside : state.behindQuote ≠ .between := by
            cases state <;> decide
          have bytes (other : UInt8)
              (present :
                other ∈
                  argument ++ List.replicate (slashes / 2) backslash) :
              other ∈ argument ∨ other = backslash ∨ other = quote :=
            (List.mem_append.mp present).imp_right fun slash =>
              .inl (List.eq_of_mem_replicate slash)
          exact
            ⟨_, _, _,
              readsByte_of_quote inside step (by simp; omega)
                (fun _ => by simp; omega) bytes⟩
    · simp only [if_neg isQuote] at step
      exact
        ⟨_, _, _,
          readsByte_of_ne_quote isQuote goesOn step (by simp; omega)
            fun _ => mem_or_of_mem_append⟩

end Bytes

/--
How an argument ends in a text: what is read of it, the text behind the blank
that ends it, and the argument.
-/
structure EndsWithin
    (state : ArgumentState) (slashes : Nat) (argument text rest : ByteString)
    (read later final : ByteString) : Prop where
  split : ∃ byte, isBlank byte = true ∧ text ++ blank :: rest = read ++ byte :: later
  within : read.length ≤ text.length
  arguments :
    readArguments state slashes argument (text ++ blank :: rest) =
      final :: readArguments .between 0 [] later
  length : final.length ≤ argument.length + slashes + read.length
  shorter :
    state ≠ .closing → quote ∈ read →
      final.length < argument.length + slashes + read.length
  unquoted :
    state ≠ .quoted → quote ∉ read → ∀ byte ∈ read, isBlank byte = false
  quoted : state = .quoted → quote ∈ read

/-- An argument with one byte more to read. -/
theorem EndsWithin.cons
    {state next : ArgumentState} {slashes nextSlashes : Nat}
    {argument nextArgument text rest read later final : ByteString}
    {byte : UInt8}
    (ended :
      EndsWithin next nextSlashes nextArgument text rest read later final)
    (reads :
      ReadsByte state slashes argument byte next nextSlashes
        nextArgument) :
    EndsWithin state slashes argument (byte :: text) rest (byte :: read)
      later final where
  split := by
    rcases ended.split with ⟨last, isBlank, split⟩
    exact ⟨last, isBlank, by rw [List.cons_append, split, List.cons_append]⟩
  within := Nat.succ_le_succ ended.within
  arguments := by
    rw [List.cons_append, reads.read, ended.arguments]
  length := by
    have first := reads.length
    have later := ended.length
    rw [List.length_cons]
    omega
  shorter := by
    intro notClosing present
    have first := reads.length
    have later := ended.length
    rw [List.length_cons]
    by_cases isQuote : byte = quote
    · have less := reads.shorter isQuote notClosing
      omega
    · have inRead : quote ∈ read :=
        (List.mem_cons.mp present).resolve_left fun same =>
          isQuote same.symm
      have less := ended.shorter (reads.notClosing isQuote) inRead
      omega
  unquoted := by
    intro unquoted noQuote
    rw [List.mem_cons, not_or] at noQuote
    have first := reads.unquoted unquoted fun same => noQuote.1 same.symm
    intro other present
    rcases List.mem_cons.mp present with rfl | inRead
    · exact first.1
    · exact ended.unquoted first.2 noQuote.2 other inRead
  quoted := by
    intro quoted
    by_cases isQuote : byte = quote
    · rw [isQuote]
      exact List.mem_cons_self
    · have still := reads.quoted quoted isQuote
      exact List.mem_cons_of_mem byte (ended.quoted still)

/-- An argument ends in front of the blank behind a text, or is quoted there. -/
theorem endsWithin_or_quoted
    {state : ArgumentState} (inside : state ≠ .between)
    (slashes : Nat) (argument text rest : ByteString) :
    (∃ read later final,
      EndsWithin state slashes argument text rest read later final) ∨
      ∃ longer,
        readArguments state slashes argument (text ++ blank :: rest) =
          readArguments .quoted 0 longer rest := by
  induction text generalizing state slashes argument with
  | nil =>
      by_cases quoted : state = .quoted
      · right
        subst quoted
        exact ⟨_, rfl⟩
      · left
        refine ⟨[], rest, argument ++ List.replicate slashes backslash, ?_⟩
        exact
          { split := ⟨blank, rfl, rfl⟩
            within := Nat.le_refl 0
            arguments := by
              rw [List.nil_append, readArguments, if_pos ⟨rfl, quoted⟩,
                if_neg inside]
            length := by simp
            shorter := nofun
            unquoted := nofun
            quoted := fun also => absurd also quoted }
  | cons byte text recursive =>
      by_cases ends : isBlank byte = true ∧ state ≠ .quoted
      · left
        refine
          ⟨[], text ++ blank :: rest,
            argument ++ List.replicate slashes backslash, ?_⟩
        exact
          { split := ⟨byte, ends.1, rfl⟩
            within := Nat.zero_le _
            arguments := by
              rw [List.cons_append, readArguments, if_pos ends,
                if_neg inside]
            length := by simp
            shorter := nofun
            unquoted := nofun
            quoted := fun quoted => absurd quoted ends.2 }
      · rcases readsByte_of_not_end ends with
          ⟨next, nextSlashes, nextArgument, reads⟩
        rcases recursive reads.inside nextSlashes nextArgument with
          ⟨read, later, final, ended⟩ | ⟨longer, passed⟩
        · exact .inl ⟨byte :: read, later, final, ended.cons reads⟩
        · right
          refine ⟨longer, ?_⟩
          rw [List.cons_append, reads.read, passed]

/-- What is left of the text behind an argument that ends in it. -/
theorem EndsWithin.behind
    {state : ArgumentState} {slashes : Nat}
    {argument text rest read later final : ByteString}
    (ended : EndsWithin state slashes argument text rest read later final) :
    read = text ∧ later = rest ∨
      ∃ byte back, text = read ++ byte :: back ∧
        later = back ++ blank :: rest := by
  rcases ended.split with ⟨byte, -, split⟩
  rcases List.append_eq_append_iff.mp split with
    ⟨more, readSplit, blankSplit⟩ | ⟨back, textSplit, byteSplit⟩
  · have none : more = [] := by
      have within := ended.within
      rw [readSplit, List.length_append] at within
      apply List.length_eq_zero_iff.mp
      omega
    rw [none] at readSplit blankSplit
    left
    exact
      ⟨readSplit.trans (List.append_nil text),
        (List.cons.inj blankSplit).2.symm⟩
  · cases back with
    | nil =>
        left
        exact
          ⟨((List.append_nil read).symm.trans textSplit.symm),
            (List.cons.inj byteSplit).2⟩
    | cons first back =>
        right
        rcases List.cons.inj byteSplit with ⟨rfl, laterSplit⟩
        exact ⟨byte, back, textSplit, laterSplit⟩

/-- Between arguments blanks are skipped, and the next argument begins. -/
theorem readArguments_between_cases (text rest : ByteString) :
    readArguments .between 0 [] (text ++ blank :: rest) =
        readArguments .between 0 [] rest ∨
      ∃ blanks begun,
        text = blanks ++ begun ∧ begun ≠ [] ∧
          readArguments .between 0 [] (text ++ blank :: rest) =
            readArguments .unquoted 0 [] (begun ++ blank :: rest) := by
  induction text with
  | nil => exact .inl (readArguments_between_of_blank rfl rest)
  | cons byte text recursive =>
      cases isIt : isBlank byte with
      | false =>
          exact
            .inr ⟨[], byte :: text, rfl, List.cons_ne_nil byte text,
              readArguments_between_of_not_blank isIt _⟩
      | true =>
          rw [List.cons_append, readArguments_between_of_blank isIt]
          rcases recursive with skipped | ⟨blanks, begun, split, some, began⟩
          · exact .inl skipped
          · exact
              .inr ⟨byte :: blanks, begun, by rw [split]; rfl, some, began⟩

/-- An argument as long as the text it ends in is that text, unbroken. -/
theorem EndsWithin.unbroken
    {text rest read later final : ByteString}
    (ended : EndsWithin .unquoted 0 [] text rest read later final)
    (long : text.length ≤ final.length) :
    Unbroken text := by
  have length := ended.length
  have within := ended.within
  rw [List.length_nil] at length
  have noQuote : quote ∉ read := by
    intro present
    have shorter := ended.shorter nofun present
    rw [List.length_nil] at shorter
    omega
  have whole : read = text := by
    rcases ended.behind with ⟨whole, -⟩ | ⟨byte, back, split, -⟩
    · exact whole
    · rw [split, List.length_append, List.length_cons] at long
      omega
  rw [← whole]
  intro byte present
  refine ⟨ended.unquoted nofun noQuote byte present, ?_⟩
  intro isQuote
  rw [isQuote] at present
  exact noQuote present

/--
A text that is the first argument of itself in front of a blank is unbroken,
unless it ends in quotes.
-/
theorem unbroken_of_first_argument {text rest : ByteString}
    (first :
      (readArguments .between 0 [] (text ++ blank :: rest)).head? =
        some text)
    (next :
      ∀ argument,
        (readArguments .between 0 [] rest).head? = some argument →
          Unbroken argument ∧ argument ≠ []) :
    Unbroken text ∧ text ≠ [] ∨
      ∃ longer,
        readArguments .between 0 [] (text ++ blank :: rest) =
          readArguments .quoted 0 longer rest := by
  rcases readArguments_between_cases text rest with
    skipped | ⟨blanks, begun, split, some, began⟩
  · rw [skipped] at first
    exact .inl (next text first)
  · rw [began] at first ⊢
    have inside : ArgumentState.unquoted ≠ .between := nofun
    rcases endsWithin_or_quoted inside 0 [] begun rest with
      ⟨read, later, final, ended⟩ | passed
    · left
      rw [ended.arguments] at first
      have same : final = text := Option.some.inj first
      have length := ended.length
      have within := ended.within
      have none : blanks = [] := by
        rw [same, split, List.length_append, List.length_nil] at length
        apply List.length_eq_zero_iff.mp
        omega
      rw [none, List.nil_append] at split
      rw [split]
      refine ⟨ended.unbroken ?_, some⟩
      rw [same, split]
    · exact .inr passed

/-- In quotes a text without quotes goes into the argument. -/
theorem readArguments_quoted_append {text : ByteString}
    (noQuote : quote ∉ text) (slashes : Nat) (argument rest : ByteString) :
    ∃ behindSlashes behind,
      readArguments .quoted slashes argument (text ++ rest) =
        readArguments .quoted behindSlashes behind rest := by
  induction text generalizing slashes argument with
  | nil => exact ⟨slashes, argument, rfl⟩
  | cons byte text recursive =>
      rw [List.mem_cons, not_or] at noQuote
      have goesOn :
          ¬ (isBlank byte = true ∧
            ArgumentState.quoted ≠ ArgumentState.quoted) :=
        fun ends => ends.2 rfl
      rcases readsByte_of_not_end goesOn with
        ⟨next, nextSlashes, nextArgument, reads⟩
      rw [List.cons_append, reads.read,
        reads.quoted rfl fun same => noQuote.1 same.symm]
      exact recursive noQuote.2 nextSlashes nextArgument

/-- In quotes a text without quotes is the rest of the argument. -/
theorem readArguments_quoted_of_no_quote {text : ByteString}
    (noQuote : quote ∉ text) (slashes : Nat) (argument : ByteString) :
    ∃ final, readArguments .quoted slashes argument text = [final] := by
  rcases readArguments_quoted_append noQuote slashes argument [] with
    ⟨behindSlashes, behind, read⟩
  rw [List.append_nil] at read
  exact ⟨_, read⟩

/--
In front of two unbroken texts that end the line, every argument but the last
is the first of these or no longer than what is in front of it.
-/
theorem readArguments_short
    (text : ByteString) {next last : ByteString}
    (nextUnbroken : Unbroken next) (nextSome : next ≠ [])
    (lastUnbroken : Unbroken last) (lastSome : last ≠ []) :
    ∃ front final,
      readArguments .between 0 [] (text ++ blank :: (next ++ blank :: last)) =
          front ++ [final] ∧
        ∀ argument ∈ front,
          argument.length ≤ text.length ∨ argument = next := by
  have both :
      readArguments .between 0 [] (next ++ blank :: last) = [next, last] := by
    rw [readArguments_of_unbroken nextUnbroken nextSome,
      readArguments_of_unbroken_end lastUnbroken lastSome]
  have noQuote : quote ∉ next ++ blank :: last := by
    intro present
    rcases List.mem_append.mp present with inNext | inLast
    · exact (nextUnbroken quote inNext).2 rfl
    · rcases List.mem_cons.mp inLast with isBlank | inLast
      · cases isBlank
      · exact (lastUnbroken quote inLast).2 rfl
  -- what is read of the text gets shorter with every argument
  induction size : text.length using Nat.strong_induction_on
      generalizing text with
  | _ size' recursive =>
      rcases readArguments_between_cases text (next ++ blank :: last) with
        skipped | ⟨blanks, begun, split, -, began⟩
      · rw [skipped, both]
        refine ⟨[next], last, rfl, ?_⟩
        intro argument present
        exact .inr (List.mem_singleton.mp present)
      · have begunLength : begun.length ≤ size' := by
          rw [← size, split, List.length_append]
          exact Nat.le_add_left _ _
        rw [began]
        have inside : ArgumentState.unquoted ≠ .between := nofun
        rcases endsWithin_or_quoted inside 0 [] begun
            (next ++ blank :: last) with
          ⟨read, later, first, ended⟩ | ⟨longer, passed⟩
        · rw [ended.arguments]
          have firstLength : first.length ≤ size' := by
            have length := ended.length
            have within := ended.within
            rw [List.length_nil] at length
            omega
          rcases ended.behind with ⟨-, rfl⟩ | ⟨byte, back, begunSplit, rfl⟩
          · rw [both]
            refine ⟨[first, next], last, rfl, ?_⟩
            intro argument present
            rcases List.mem_cons.mp present with rfl | isNext
            · exact .inl firstLength
            · exact .inr (List.mem_singleton.mp isNext)
          · have less : back.length < size' := by
              rw [begunSplit, List.length_append, List.length_cons]
                at begunLength
              omega
            rcases recursive back.length less back rfl with
              ⟨front, final, whole, short⟩
            refine ⟨first :: front, final, by rw [whole]; rfl, ?_⟩
            intro argument present
            rcases List.mem_cons.mp present with rfl | inFront
            · exact .inl firstLength
            · exact
                (short argument inFront).imp_left fun length =>
                  Nat.le_trans length (Nat.le_of_lt less)
        · rcases readArguments_quoted_of_no_quote noQuote 0 longer with
            ⟨final, single⟩
          rw [passed, single]
          exact ⟨[], final, rfl, nofun⟩

/-! ## The bytes of the arguments -/

/-- A byte of an argument is a backslash or one of the text. -/
theorem mem_of_mem_readArguments
    {state : ArgumentState} {slashes : Nat} {argument text : ByteString}
    {found : ByteString}
    (isArgument : found ∈ readArguments state slashes argument text)
    {byte : UInt8} (present : byte ∈ found) :
    byte ∈ argument ∨ byte = backslash ∨ byte ∈ text := by
  induction text generalizing state slashes argument with
  | nil =>
      rw [readArguments] at isArgument
      split_ifs at isArgument
      · cases isArgument
      · rw [List.mem_singleton.mp isArgument] at present
        exact
          (List.mem_append.mp present).imp_right fun slash =>
            .inl (List.eq_of_mem_replicate slash)
  | cons first text recursive =>
      by_cases ends : isBlank first = true ∧ state ≠ .quoted
      · rw [readArguments, if_pos ends] at isArgument
        have later
            (isLater : found ∈ readArguments .between 0 [] text) :
            byte ∈ argument ∨ byte = backslash ∨ byte ∈ first :: text := by
          rcases recursive isLater with fresh | slash | inText
          · cases fresh
          · exact .inr (.inl slash)
          · exact .inr (.inr (List.mem_cons_of_mem first inText))
        split_ifs at isArgument
        · exact later isArgument
        · rcases List.mem_cons.mp isArgument with whole | isLater
          · rw [whole] at present
            exact
              (List.mem_append.mp present).imp_right fun slash =>
                .inl (List.eq_of_mem_replicate slash)
          · exact later isLater
      · rcases readsByte_of_not_end ends with
          ⟨next, nextSlashes, nextArgument, reads⟩
        rw [reads.read] at isArgument
        rcases recursive isArgument with inNext | slash | inText
        · rcases reads.bytes byte inNext with old | slash | same
          · exact .inl old
          · exact .inr (.inl slash)
          · exact .inr (.inr (same ▸ List.mem_cons_self))
        · exact .inr (.inl slash)
        · exact .inr (.inr (List.mem_cons_of_mem first inText))

end IocpServer.Library
