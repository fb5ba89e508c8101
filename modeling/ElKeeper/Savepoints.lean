import ElKeeper.Program

/-!
# Savepoints

A connection sees a database that may be ahead of the one on disk.  A savepoint
keeps the database of its time; it is released with what was written since, or
rolled back to.  Any statement may be refused, for whatever reason the database
has at its time: `refuses` is asked with the number of the statement.

A session is what the statements between two savepoints work on.  It has no
access to the savepoints, so a session inside a savepoint is undone as a whole.
-/

namespace ElKeeper

namespace Savepoints

/-- The database and the number of the statements executed so far. -/
structure Session (D : Type) where
  data : D
  executed : Nat

@[ext]
structure Connection (D : Type) where
  /-- The database on disk. -/
  committed : D
  /-- The database that the connection sees. -/
  current : D
  /-- A transaction was begun outside the savepoints. -/
  begun : Bool
  /-- The open savepoints and what they keep, the latest first. -/
  savepoints : List (String × D)
  executed : Nat
  /-- Without a transaction every statement is on disk at once. -/
  settled : begun = false → savepoints = [] → current = committed

variable {D ε α : Type}

/-! ### Statements -/

/-- One statement of a session. -/
def execute (refuses : Nat → D → Option ε) (effect : D → Except ε (α × D)) :
    Program (Session D) ε α where
  run session :=
    match refuses session.executed session.data with
    | some error => (.raised error, ⟨session.data, session.executed + 1⟩)
    | none =>
        match effect session.data with
        | .ok (value, data) => (.returned value, ⟨data, session.executed + 1⟩)
        | .error error => (.raised error, ⟨session.data, session.executed + 1⟩)

/-- A statement that only reads. -/
def query (refuses : Nat → D → Option ε) (view : D → α) : Program (Session D) ε α :=
  execute refuses fun data => .ok (view data, data)

/-- A statement that only writes. -/
def write (refuses : Nat → D → Option ε) (change : D → Except ε D) :
    Program (Session D) ε Unit :=
  execute refuses fun data => (change data).map fun data => ((), data)

namespace Connection

/-- The same connection after further statements that changed nothing. -/
def counted (connection : Connection D) (executed : Nat) : Connection D :=
  { connection with executed := executed }

/-- The database after a statement; it is on disk when there is no transaction. -/
def store (connection : Connection D) (session : Session D) : Connection D where
  committed :=
    if connection.begun = false ∧ connection.savepoints = [] then session.data
    else connection.committed
  current := session.data
  begun := connection.begun
  savepoints := connection.savepoints
  executed := session.executed
  settled begun savepoints := (if_pos ⟨begun, savepoints⟩).symm

/-- `SAVEPOINT`. -/
def enter (connection : Connection D) (name : String) : Connection D where
  committed := connection.committed
  current := connection.current
  begun := connection.begun
  savepoints := (name, connection.current) :: connection.savepoints
  executed := connection.executed
  settled _ savepoints := by cases savepoints

/-- The connection has the named savepoint on top of the others. -/
def backTo (connection : Connection D) (name : String) (saved : D)
    (others : List (String × D)) : Connection D where
  committed := connection.committed
  current := saved
  begun := connection.begun
  savepoints := (name, saved) :: others
  executed := connection.executed
  settled _ savepoints := by cases savepoints

/-- The connection has only the other savepoints; what it sees is on disk when there are none. -/
def leave (connection : Connection D) (others : List (String × D)) : Connection D where
  committed :=
    if connection.begun = false ∧ others = [] then connection.current else connection.committed
  current := connection.current
  begun := connection.begun
  savepoints := others
  executed := connection.executed
  settled begun savepoints := (if_pos ⟨begun, savepoints⟩).symm

end Connection

section Control

variable (refuses : Nat → D → Option ε)

/-- A statement of the connection itself. -/
def control (effect : Connection D → Except ε (Connection D)) :
    Program (Connection D) ε Unit where
  run connection :=
    let counted := connection.counted (connection.executed + 1)
    match refuses connection.executed connection.current with
    | some error => (.raised error, counted)
    | none =>
        match effect counted with
        | .ok connection => (.returned (), connection)
        | .error error => (.raised error, counted)

def savepoint (name : String) : Program (Connection D) ε Unit :=
  control refuses fun connection => .ok (connection.enter name)

variable (missing : String → ε)

/-- `ROLLBACK TO`: the savepoint stays open. -/
def rollbackTo (name : String) : Program (Connection D) ε Unit :=
  control refuses fun connection =>
    match connection.savepoints.dropWhile (·.1 ≠ name) with
    | [] => .error (missing name)
    | (name, saved) :: others => .ok (connection.backTo name saved others)

/-- `RELEASE`. -/
def release (name : String) : Program (Connection D) ε Unit :=
  control refuses fun connection =>
    match connection.savepoints.dropWhile (·.1 ≠ name) with
    | [] => .error (missing name)
    | _ :: others => .ok (connection.leave others)

/-- A session of the connection. -/
def session (program : Program (Session D) ε α) : Program (Connection D) ε α where
  run connection :=
    let (outcome, session) := program.run ⟨connection.current, connection.executed⟩
    (outcome, connection.store session)

/-- The handler of an exception.  Its statements find the savepoint and are not refused. -/
def unwind (name : String) : Program (Connection D) ε Unit := do
  rollbackTo (fun _ _ => none) missing name
  release (fun _ _ => none) missing name

/-- A session in a savepoint, which is released after it.  An exception rolls back to the
savepoint and releases it. -/
def guarded (name : String) (program : Program (Session D) ε α) :
    Program (Connection D) ε α := do
  savepoint refuses name
  let body : Program (Connection D) ε α := do
    let value ← session program
    release refuses missing name
    pure value
  body.onRaise fun _ => unwind missing name

end Control

/-! ### Sessions in a savepoint -/

variable {refuses : Nat → D → Option ε} {missing : String → ε}

namespace Connection

/-- Since the connection entered the savepoint, only what it sees has changed. -/
structure Within (connection : Connection D) (name : String) (reached : Connection D) : Prop where
  committed : reached.committed = connection.committed
  begun : reached.begun = connection.begun
  savepoints : reached.savepoints = (name, connection.current) :: connection.savepoints

/-- Released, the savepoint leaves what its session wrote. -/
theorem Within.leave {connection reached : Connection D} {name : String}
    (within : connection.Within name reached) :
    reached.leave connection.savepoints =
      connection.store ⟨reached.current, reached.executed⟩ := by
  ext
  · simp only [Connection.leave, store, within.committed, within.begun]
  · rfl
  · exact within.begun
  · rfl
  · rfl

theorem Within.counted {connection reached : Connection D} {name : String}
    (within : connection.Within name reached) (executed : Nat) :
    connection.Within name (reached.counted executed) :=
  ⟨within.committed, within.begun, within.savepoints⟩

theorem Within.backTo {connection reached : Connection D} {name : String}
    (within : connection.Within name reached) :
    connection.Within name (reached.backTo name connection.current connection.savepoints) :=
  ⟨within.committed, within.begun, rfl⟩

theorem Within.found {connection reached : Connection D} {name : String}
    (within : connection.Within name reached) :
    reached.savepoints.dropWhile (·.1 ≠ name) =
      (name, connection.current) :: connection.savepoints := by
  rw [within.savepoints]
  simp

end Connection

/-- An exception leaves nothing but the count of the statements. -/
def Atomic (program : Program (Connection D) ε α) : Prop :=
  ∀ connection error after, program.run connection = (.raised error, after) →
    ∃ executed, after = connection.counted executed

theorem Atomic.bind {β : Type} {first : Program (Connection D) ε α}
    {next : α → Program (Connection D) ε β} (reads : first.ReadOnly)
    (atomic : ∀ value, Atomic (next value)) : Atomic (first >>= next) := by
  intro connection error after ran
  obtain same | ⟨value, -, nextRan⟩ := reads.bind_raised ran
  · exact ⟨connection.executed, same⟩
  · exact atomic value connection error after nextRan

end Savepoints

end ElKeeper
