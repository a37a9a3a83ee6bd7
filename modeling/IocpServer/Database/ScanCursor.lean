import IocpServer.Database.ScanPages
import IocpServer.Library.DecimalText

/-!
# The cursor of a scan

`SCAN` answers with a page of keys and with the cursor of the next page, an
unsigned 64-bit number in decimal; cursor 0 ends the scan.  The loops of
`ScanMultipleResult` and of `DeleteTable` differ in what they do with a key
and in how they convert the cursor: the first reads it with `std::stoi` and
sends it as `%d`, the second reads it with `std::stoull` and sends it as
`%llu`.

An `int` is passed for `%d` in the lower half of the argument of 64 bits.
A key without a string in the store is one whose `GET` has another reply.
-/

namespace IocpServer.Database

open IocpServer.Library

/-- A command to the server. -/
inductive RedisCommand where
  | scan (cursor pattern : ByteString) (count : Option Int32)
  | get (key : ByteString)
  | del (key : ByteString)
deriving DecidableEq, Repr

/-- What a command of a scan visits. -/
inductive ScanVisit where
  | page (cursor : ByteString)
  | key (key : ByteString)
deriving DecidableEq, Repr

/-- The page or the key that a command is about. -/
def RedisCommand.visit : RedisCommand → ScanVisit
  | .scan cursor _ _ => .page cursor
  | .get key => .key key
  | .del key => .key key

/-- The cursor that a visit of a page sends. -/
def ScanVisit.cursor : ScanVisit → Option ByteString
  | .page cursor => some cursor
  | .key _ => none

/-- An array in reply to `SCAN`: the next cursor and the keys of a page. -/
structure ScanReply where
  cursor : ByteString
  keyList : List ByteString
deriving DecidableEq, Repr

/-- The commands sent, the state of the loop, and how it ended. -/
structure LoopRun (State : Type) where
  commands : List RedisCommand
  state : State
  outcome : Except StoiException Unit

/-- The pages and keys a loop has visited, in order. -/
def LoopRun.visits {State : Type} (run : LoopRun State) :
    List ScanVisit :=
  run.commands.map RedisCommand.visit

/-- What the two loops over a scan have of their own. -/
structure ScanLoop (State : Type) where
  command : UInt64 → RedisCommand
  readCursor : ByteString → Except StoiException UInt64
  keyCommand : ByteString → RedisCommand
  visitKey : State → ByteString → State

namespace ScanLoop

variable {State : Type}

/--
The loop from a cursor on.  Any other reply than an array ends it, and so
does a connection that gives none.
-/
def run (loop : ScanLoop State) :
    UInt64 → State → List (Option ScanReply) → LoopRun State
  | cursor, state, [] => ⟨[loop.command cursor], state, .ok ()⟩
  | cursor, state, none :: _ => ⟨[loop.command cursor], state, .ok ()⟩
  | cursor, state, some reply :: replies =>
      match loop.readCursor (cString reply.cursor) with
      | .error exception =>
          ⟨[loop.command cursor], state, .error exception⟩
      | .ok next =>
          let visiting :=
            loop.command cursor ::
              reply.keyList.map fun element =>
                loop.keyCommand (cString element)
          let visited := reply.keyList.foldl loop.visitKey state
          if next = 0 then
            ⟨visiting, visited, .ok ()⟩
          else
            let rest := loop.run next visited replies
            { rest with commands := visiting ++ rest.commands }

end ScanLoop

namespace RedisWorker

/-- `"table:%s:*"` with the table's name for `%s`. -/
def scanPattern (tableName : ByteString) : ByteString :=
  literal "table:" ++ cString tableName ++ literal ":*"

/-- `"table:" + tableName + ":*"`, for `%s`. -/
def deletePattern (tableName : ByteString) : ByteString :=
  cString (literal "table:" ++ tableName ++ literal ":*")

/-- The loop of `ScanMultipleResult`. -/
def scanMultipleResultLoop (redis : RedisWorker) (tableName : ByteString) :
    ScanLoop (Std.ExtTreeMap ByteString ByteString) where
  command cursor :=
    .scan (integerText cursor.toUInt32.toInt32.toInt)
      (scanPattern tableName) none
  readCursor text :=
    (stoi text).map fun number => UInt64.ofInt number.toInt
  keyCommand := .get
  visitKey := redis.collectKey

/-- `ScanMultipleResult`, with the replies its scan gets. -/
def runScanMultipleResult
    (redis : RedisWorker) (tableName : ByteString)
    (replies : List (Option ScanReply)) :
    LoopRun (Std.ExtTreeMap ByteString ByteString) :=
  (redis.scanMultipleResultLoop tableName).run 0 ∅ replies

/-- `DEL` of one key. -/
def deleteKey (redis : RedisWorker) (element : ByteString) :
    RedisWorker where
  store := redis.store.erase (cString element)

/-- The loop of `DeleteTable`. -/
def deleteTableLoop (tableName : ByteString) (scanCount : Int32) :
    ScanLoop RedisWorker where
  command cursor :=
    .scan (integerText cursor.toNat) (deletePattern tableName)
      (some scanCount)
  readCursor := stoull
  keyCommand := .del
  visitKey := deleteKey

/-- `DeleteTable`, with the replies its scan gets. -/
def runDeleteTable
    (redis : RedisWorker) (tableName : ByteString) (scanCount : Int32)
    (replies : List (Option ScanReply)) :
    LoopRun RedisWorker :=
  (deleteTableLoop tableName scanCount).run 0 redis replies

end RedisWorker

/-! ## Sessions -/

/-- A page that is not the last one, with the cursor of the next. -/
structure ScanPage where
  nextCursor : UInt64
  keys : List ByteString
deriving DecidableEq, Repr

/-- The pages of a scan; the last one has the cursor 0, and no other. -/
structure ScanSession where
  pages : List ScanPage
  lastKeys : List ByteString
  nextCursor_ne : ∀ page ∈ pages, page.nextCursor ≠ 0

/-- A cursor in the server's reply. -/
def cursorText (cursor : UInt64) : ByteString :=
  integerText cursor.toNat

namespace ScanSession

/-- The replies with these pages. -/
def repliesOf
    (pages : List ScanPage) (lastKeys : List ByteString) :
    List (Option ScanReply) :=
  (pages.map fun page =>
      some ⟨cursorText page.nextCursor, page.keys⟩)
    ++ [some ⟨cursorText 0, lastKeys⟩]

/-- The replies to the `SCAN` commands. -/
def replies (session : ScanSession) : List (Option ScanReply) :=
  repliesOf session.pages session.lastKeys

/-- The keys of all pages. -/
def keys (session : ScanSession) : List ByteString :=
  session.pages.flatMap ScanPage.keys ++ session.lastKeys

/-- The pages and keys from a cursor on, in the order of the replies. -/
def visitsFrom :
    UInt64 → List ScanPage → List ByteString → List ScanVisit
  | cursor, [], lastKeys =>
      .page (cursorText cursor) ::
        lastKeys.map fun element => .key (cString element)
  | cursor, page :: pages, lastKeys =>
      .page (cursorText cursor) ::
        (page.keys.map fun element => .key (cString element))
          ++ visitsFrom page.nextCursor pages lastKeys

/-- The pages and keys of the session. -/
def visits (session : ScanSession) : List ScanVisit :=
  visitsFrom 0 session.pages session.lastKeys

end ScanSession

/-! ## A loop over a session -/

namespace ScanLoop

variable {State : Type} {loop : ScanLoop State}

/-- A cursor is read as it was written and sent as it was read. -/
structure Handles (loop : ScanLoop State) (cursor : UInt64) : Prop where
  reads : loop.readCursor (cursorText cursor) = .ok cursor
  sends : (loop.command cursor).visit = .page (cursorText cursor)

theorem zero_not_mem_cursorText (cursor : UInt64) :
    0 ∉ cursorText cursor := by
  intro present
  rcases mem_integerText present with sign | digit
  · cases sign
  · cases digit

theorem cString_cursorText (cursor : UInt64) :
    cString (cursorText cursor) = cursorText cursor :=
  cString_of_zero_not_mem (zero_not_mem_cursorText cursor)

/-- The last page of a scan. -/
theorem run_last
    {cursor : UInt64} {state : State} {reply : ScanReply}
    {replies : List (Option ScanReply)}
    (read : loop.readCursor (cString reply.cursor) = .ok 0) :
    loop.run cursor state (some reply :: replies) =
      { commands :=
          loop.command cursor ::
            reply.keyList.map fun element =>
              loop.keyCommand (cString element)
        state := reply.keyList.foldl loop.visitKey state
        outcome := .ok () } := by
  simp [run, read]

/-- A page before the last one. -/
theorem run_more
    {cursor next : UInt64} {state : State} {reply : ScanReply}
    {replies : List (Option ScanReply)}
    (read : loop.readCursor (cString reply.cursor) = .ok next)
    (more : next ≠ 0) :
    loop.run cursor state (some reply :: replies) =
      let rest :=
        loop.run next (reply.keyList.foldl loop.visitKey state) replies
      { rest with
        commands :=
          loop.command cursor ::
            (reply.keyList.map fun element =>
                loop.keyCommand (cString element))
              ++ rest.commands } := by
  simp [run, read, more]

/-- What is sent for the keys of a page. -/
theorem map_visit_keys
    (keyVisits : ∀ key, (loop.keyCommand key).visit = .key key)
    (keys : List ByteString) :
    (keys.map fun element =>
        loop.keyCommand (cString element)).map RedisCommand.visit =
      keys.map fun element => .key (cString element) := by
  rw [List.map_map]
  exact List.map_congr_left fun element _ => keyVisits _

variable (loop) in
/-- With its cursors handled, a loop visits what the session has. -/
theorem run_replies
    (keyVisits : ∀ key, (loop.keyCommand key).visit = .key key)
    (lastRead : loop.readCursor (cursorText 0) = .ok 0)
    {pages : List ScanPage} {lastKeys : List ByteString}
    (cursor : UInt64) (state : State)
    (sent : (loop.command cursor).visit = .page (cursorText cursor))
    (more : ∀ page ∈ pages, page.nextCursor ≠ 0)
    (handled : ∀ page ∈ pages, loop.Handles page.nextCursor) :
    let finished :=
      loop.run cursor state (ScanSession.repliesOf pages lastKeys)
    finished.commands.map RedisCommand.visit =
        ScanSession.visitsFrom cursor pages lastKeys ∧
      finished.outcome = .ok () ∧
        finished.state =
          (pages.flatMap ScanPage.keys ++ lastKeys).foldl loop.visitKey
            state := by
  induction pages generalizing cursor state with
  | nil =>
      have read : loop.readCursor (cString (cursorText 0)) = .ok 0 := by
        rw [cString_cursorText]
        exact lastRead
      simp only [ScanSession.repliesOf, List.map_nil, List.nil_append,
        List.flatMap_nil]
      rw [run_last read]
      refine ⟨?_, rfl, rfl⟩
      rw [List.map_cons, sent, map_visit_keys keyVisits,
        ScanSession.visitsFrom]
  | cons page pages induction =>
      rw [List.forall_mem_cons] at more handled
      have read :
          loop.readCursor (cString (cursorText page.nextCursor)) =
            .ok page.nextCursor := by
        rw [cString_cursorText]
        exact handled.1.reads
      rcases
        induction page.nextCursor (page.keys.foldl loop.visitKey state)
          handled.1.sends more.2 handled.2 with
        ⟨visits, ended, visited⟩
      simp only [ScanSession.repliesOf, List.map_cons, List.cons_append,
        List.flatMap_cons, List.append_assoc, List.foldl_append]
      rw [run_more read more.1]
      refine ⟨?_, ended, ?_⟩
      · simp only [List.map_cons, List.map_append, sent,
          map_visit_keys keyVisits, ScanSession.visitsFrom]
        exact congrArg _ visits
      · rw [← List.foldl_append]
        exact visited

variable (loop) in
/-- A cursor that cannot be read ends the loop. -/
theorem run_unreadable
    {pages : List ScanPage} {lastKeys : List ByteString}
    {exception : StoiException}
    (cursor : UInt64) (state : State)
    (more : ∀ page ∈ pages, page.nextCursor ≠ 0)
    (readable :
      ∀ page ∈ pages,
        loop.readCursor (cursorText page.nextCursor) =
            .ok page.nextCursor ∨
          loop.readCursor (cursorText page.nextCursor) =
            .error exception)
    (unreadable :
      ∃ page ∈ pages,
        loop.readCursor (cursorText page.nextCursor) =
          .error exception) :
    (loop.run cursor state
      (ScanSession.repliesOf pages lastKeys)).outcome =
        .error exception := by
  induction pages generalizing cursor state with
  | nil =>
      rcases unreadable with ⟨page, member, -⟩
      cases member
  | cons page pages induction =>
      rw [List.forall_mem_cons] at more readable
      rw [← cString_cursorText] at readable
      simp only [ScanSession.repliesOf, List.map_cons, List.cons_append]
      rcases readable.1 with read | failed
      · rw [run_more read more.1]
        apply induction _ _ more.2 readable.2
        rcases unreadable with ⟨bad, member, failed⟩
        rcases List.mem_cons.mp member with rfl | later
        · rw [← cString_cursorText, read] at failed
          cases failed
        · exact ⟨bad, later, failed⟩
      · simp [run, failed]

end ScanLoop

namespace RedisWorker

/-! ## The two conversions -/

section Conversions

variable {redis : RedisWorker} {tableName : ByteString}
variable {scanCount : Int32}

theorem deleteTableLoop_reads (cursor : UInt64) :
    (deleteTableLoop tableName scanCount).readCursor (cursorText cursor) =
      .ok cursor := by
  change stoull (integerText cursor.toNat) = _
  rw [integerText_natCast, stoull_digitBytes]

/-- `DeleteTable` handles every cursor. -/
theorem deleteTableLoop_handles (cursor : UInt64) :
    (deleteTableLoop tableName scanCount).Handles cursor where
  reads := deleteTableLoop_reads cursor
  sends := rfl

/-- `ScanMultipleResult` reads the cursors that fit into an `int`. -/
theorem scanMultipleResultLoop_reads (cursor : UInt64) :
    (redis.scanMultipleResultLoop tableName).readCursor (cursorText cursor) =
      if cursor.toNat < 2 ^ 31 then
        .ok cursor
      else
        .error .outOfRange := by
  change
    (stoi (integerText cursor.toNat)).map
        (fun number => UInt64.ofInt number.toInt) =
      _
  rw [integerText_natCast, stoi_digitBytes]
  split_ifs with small
  · apply congrArg Except.ok
    dsimp only
    rw [Int32.toInt_ofNat_of_lt small, UInt64.ofInt]
    apply UInt64.toNat_inj.mp
    rw [UInt64.toNat_ofNat']
    omega
  · rfl

/-- What it reads it sends back. -/
theorem scanMultipleResultLoop_handles
    {cursor : UInt64} (small : cursor.toNat < 2 ^ 31) :
    (redis.scanMultipleResultLoop tableName).Handles cursor where
  reads := by
    rw [scanMultipleResultLoop_reads, if_pos small]
  sends := by
    have whole : cursor.toUInt32.toInt32 = Int32.ofNat cursor.toNat :=
      Int32.eq_iff_toBitVec_eq.mpr rfl
    have sent : cursor.toUInt32.toInt32.toInt = cursor.toNat := by
      rw [whole, Int32.toInt_ofNat_of_lt small]
    change
      ScanVisit.page (integerText cursor.toUInt32.toInt32.toInt) = _
    rw [sent]
    rfl

end Conversions

/-! ## The two loops over one session -/

/--
On a session `ScanMultipleResult` sends every cursor back, returns the string
of every key, and visits what `DeleteTable` visits.
-/
structure WalksSession
    (redis : RedisWorker) (tableName : ByteString) (scanCount : Int32)
    (session : ScanSession) : Prop where
  cursors :
    (redis.runScanMultipleResult tableName session.replies).visits.filterMap
        ScanVisit.cursor =
      cursorText 0 ::
        session.pages.map fun page => cursorText page.nextCursor
  returns :
    (redis.runScanMultipleResult tableName session.replies).outcome = .ok ()
  values :
    ∀ key ∈ session.keys,
      (redis.runScanMultipleResult tableName session.replies).state[key]? =
        redis.store[key]?
  visits :
    (redis.runScanMultipleResult tableName session.replies).visits =
      (redis.runDeleteTable tableName scanCount session.replies).visits

/-- The cursors a client gets fit into an `int`. -/
def SmallCursors (session : ScanSession) : Prop :=
  ∀ page ∈ session.pages, page.nextCursor.toNat < 2 ^ 31

/-- No key of the session with a string, and no such string, holds a zero. -/
def PlainKeys (redis : RedisWorker) (session : ScanSession) : Prop :=
  ∀ key ∈ session.keys,
    ∀ value, redis.store[key]? = some value → 0 ∉ key ∧ 0 ∉ value

section Sessions

variable {redis : RedisWorker} {tableName : ByteString}
variable {scanCount : Int32} {session : ScanSession}

theorem filterMap_visitsFrom
    (cursor : UInt64) (pages : List ScanPage)
    (lastKeys : List ByteString) :
    (ScanSession.visitsFrom cursor pages lastKeys).filterMap
        ScanVisit.cursor =
      cursorText cursor ::
        pages.map fun page => cursorText page.nextCursor := by
  have noCursors (keys : List ByteString) :
      (keys.map fun element =>
          ScanVisit.key (cString element)).filterMap
        ScanVisit.cursor = [] := by
    rw [List.filterMap_map, List.filterMap_eq_nil_iff]
    intro element _
    rfl
  induction pages generalizing cursor with
  | nil =>
      simp [ScanSession.visitsFrom, ScanVisit.cursor, noCursors]
  | cons page pages induction =>
      simp [ScanSession.visitsFrom, ScanVisit.cursor, noCursors,
        induction]

/-- `DeleteTable` visits every session as it is. -/
theorem runDeleteTable_visits :
    (redis.runDeleteTable tableName scanCount session.replies).visits =
        session.visits ∧
      (redis.runDeleteTable tableName scanCount session.replies).state =
        session.keys.foldl deleteKey redis := by
  rcases
    (deleteTableLoop tableName scanCount).run_replies (fun _ => rfl)
      (deleteTableLoop_reads 0) 0 redis rfl session.nextCursor_ne
      (fun page _ => deleteTableLoop_handles page.nextCursor) with
    ⟨visits, -, deleted⟩
  exact ⟨visits, deleted⟩

/-- `ScanMultipleResult` visits a session whose cursors are small. -/
theorem runScanMultipleResult_visits (small : SmallCursors session) :
    (redis.runScanMultipleResult tableName session.replies).visits =
        session.visits ∧
      (redis.runScanMultipleResult tableName session.replies).outcome = .ok () ∧
        (redis.runScanMultipleResult tableName session.replies).state =
          session.keys.foldl redis.collectKey ∅ := by
  have zero : (redis.scanMultipleResultLoop tableName).Handles 0 :=
    scanMultipleResultLoop_handles (by decide)
  exact
    (redis.scanMultipleResultLoop tableName).run_replies (fun _ => rfl)
      zero.reads 0 ∅ zero.sends session.nextCursor_ne
      (fun page member => scanMultipleResultLoop_handles (small page member))

/-- It throws on every other session. -/
theorem runScanMultipleResult_throws (large : ¬ SmallCursors session) :
    (redis.runScanMultipleResult tableName session.replies).outcome =
      .error .outOfRange := by
  apply
    (redis.scanMultipleResultLoop tableName).run_unreadable 0 ∅
      session.nextCursor_ne
  · intro page _
    rw [scanMultipleResultLoop_reads]
    split_ifs
    · exact .inl rfl
    · exact .inr rfl
  · rw [SmallCursors] at large
    push Not at large
    rcases large with ⟨page, member, excess⟩
    refine ⟨page, member, ?_⟩
    rw [scanMultipleResultLoop_reads, if_neg (Nat.not_lt.mpr excess)]

/-- The string a `ScanMultipleResult` returns for a key. -/
theorem foldl_collectKey_eq_iff (key : ByteString)
    {elements : List ByteString} (member : key ∈ elements) :
    (elements.foldl redis.collectKey ∅)[key]? = redis.store[key]? ↔
      ∀ value, redis.store[key]? = some value →
        0 ∉ key ∧ 0 ∉ value := by
  rw [foldl_collectKey_getElem?]
  constructor
  · intro equal value stored
    split_ifs at equal with visited
    · rcases List.mem_map.mp visited with ⟨element, -, same⟩
      rw [stored, Option.map_some, Option.some_or] at equal
      rw [← same, ← Option.some.inj equal]
      exact ⟨zero_not_mem_cString element, zero_not_mem_cString value⟩
    · rw [stored] at equal
      simp at equal
  · intro plain
    cases stored : redis.store[key]? with
    | none => simp
    | some value =>
        rcases plain value stored with ⟨plainKey, plainValue⟩
        have visited : key ∈ elements.map cString :=
          List.mem_map.mpr
            ⟨key, member, cString_of_zero_not_mem plainKey⟩
        rw [if_pos visited, Option.map_some,
          cString_of_zero_not_mem plainValue, Option.some_or]

end Sessions

/--
`ScanMultipleResult` walks a session as `DeleteTable` does and returns what is
stored if and only if every cursor it gets fits into an `int` and nothing it
looks up holds a zero byte.
-/
theorem scan_walks_session_iff
    (redis : RedisWorker) (tableName : ByteString) (scanCount : Int32)
    (session : ScanSession) :
    redis.WalksSession tableName scanCount session ↔
      SmallCursors session ∧ redis.PlainKeys session := by
  constructor
  · intro walks
    have small : SmallCursors session := by
      by_contra large
      have ended := walks.returns
      rw [runScanMultipleResult_throws large] at ended
      cases ended
    refine ⟨small, ?_⟩
    intro key member
    have returned := walks.values key member
    rw [(runScanMultipleResult_visits small).2.2] at returned
    exact (foldl_collectKey_eq_iff key member).mp returned
  · rintro ⟨small, plain⟩
    rcases runScanMultipleResult_visits small with ⟨visits, ended, collected⟩
    exact
      { cursors := by
          rw [visits]
          exact filterMap_visitsFrom ..
        returns := ended
        values := by
          intro key member
          rw [collected]
          exact
            (foldl_collectKey_eq_iff key member).mpr (plain key member)
        visits := by
          rw [visits, runDeleteTable_visits.1] }

/-- Two pages with the cursor 2147483648 between them. -/
def largeCursorSession : ScanSession where
  pages := [⟨2147483648, [literal "table:LobbyInfo:a"]⟩]
  lastKeys := [literal "table:LobbyInfo:b"]
  nextCursor_ne := by decide

/-- `std::stoi` throws, and the entry of the last page is not returned. -/
theorem large_cursor_not_walked :
    ¬ ∀ (redis : RedisWorker) (tableName : ByteString)
        (scanCount : Int32) (session : ScanSession),
      redis.WalksSession tableName scanCount session := by
  intro walks
  have ended :=
    (walks empty (literal "LobbyInfo") 100 largeCursorSession).returns
  have large : ¬ SmallCursors largeCursorSession := by
    intro small
    exact
      absurd (small _ List.mem_cons_self) (by decide)
  rw [runScanMultipleResult_throws large] at ended
  cases ended

end RedisWorker

end IocpServer.Database
