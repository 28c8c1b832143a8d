import VoiceLife.Lib.Run

/-! # Transactions under READ COMMITTED

A transaction is a program of statements. Each statement sees the rows committed at that moment and the
changes that its own transaction has made, and waits while another transaction holds a row that it
changes. Nothing checks at the end that what was read is still there. A run in which every transaction
ends with a consistent view of what it has read is serializable.
-/

/-- What statements see and do: their answers, their changes, and which changes touch one row. -/
structure Database (σ : Type) where
  Statement : Type
  Answer : Statement → Type
  Change : Type
  execute (statement : Statement) : σ → Answer statement × List Change
  apply : σ → Change → σ
  conflicts : Change → Change → Bool

namespace Database

variable {σ : Type} (db : Database σ)

/-- The rows after some changes. -/
def applyAll (rows : σ) (changes : List db.Change) : σ :=
  changes.foldl db.apply rows

@[simp] theorem applyAll_nil (rows : σ) : db.applyAll rows [] = rows := rfl

theorem applyAll_append (rows : σ) (changes changes' : List db.Change) :
    db.applyAll rows (changes ++ changes') = db.applyAll (db.applyAll rows changes) changes' :=
  List.foldl_append

/-- A program of statements, which may throw. -/
inductive Transaction (ε ρ : Type) where
  | done (result : Except ε ρ)
  | query (statement : db.Statement) (next : db.Answer statement → Transaction ε ρ)

variable {db} {ε ρ τ : Type}

namespace Transaction

/-- The program that goes on with the result. -/
def bind : db.Transaction ε ρ → (ρ → db.Transaction ε τ) → db.Transaction ε τ
  | .done (.ok result), next => next result
  | .done (.error error), _ => .done (.error error)
  | .query statement rest, next => .query statement fun answer => (rest answer).bind next

instance : Monad (db.Transaction ε) where
  pure result := .done (.ok result)
  bind := Transaction.bind

/-- One statement. -/
def ask (statement : db.Statement) : db.Transaction ε (db.Answer statement) :=
  .query statement fun answer => .done (.ok answer)

/-- Throw an error. -/
def fail (error : ε) : db.Transaction ε ρ :=
  .done (.error error)

/-! ## Alone -/

/-- The result and the rows of a transaction that runs alone, before it commits or rolls back. -/
def run : db.Transaction ε ρ → σ → Except ε ρ × σ
  | .done result, rows => (result, rows)
  | .query statement next, rows =>
      (next (db.execute statement rows).1).run (db.applyAll rows (db.execute statement rows).2)

/-- The result and the committed rows of a transaction that runs alone. -/
def alone (program : db.Transaction ε ρ) (rows : σ) : Except ε ρ × σ :=
  match program.run rows with
  | (.ok result, after) => (.ok result, after)
  | (.error error, _) => (.error error, rows)

/-- The transaction, run alone, ends as it should. -/
def Ends (post : Except ε ρ → σ → Prop) : db.Transaction ε ρ → σ → Prop
  | .done result, rows => post result rows
  | .query statement next, rows =>
      (next (db.execute statement rows).1).Ends post (db.applyAll rows (db.execute statement rows).2)

section Ends

variable {rows : σ}

/-- A transaction followed by another: what the first throws is thrown. -/
theorem ends_bind {post : Except ε τ → σ → Prop} (program : db.Transaction ε ρ)
    (next : ρ → db.Transaction ε τ) :
    (program >>= next).Ends post rows ↔
      program.Ends (fun result rows =>
        match result with
        | .ok result => (next result).Ends post rows
        | .error error => post (.error error) rows) rows := by
  induction program generalizing rows with
  | done result => cases result <;> rfl
  | query statement rest ih => exact ih _

theorem ends_iff_run {post : Except ε ρ → σ → Prop} (program : db.Transaction ε ρ) :
    program.Ends post rows ↔ post (program.run rows).1 (program.run rows).2 := by
  induction program generalizing rows with
  | done result => rfl
  | query statement next ih => exact ih _

theorem Ends.imp {post post' : Except ε ρ → σ → Prop} {program : db.Transaction ε ρ}
    (h : program.Ends post rows) (himp : ∀ result rows, post result rows → post' result rows) :
    program.Ends post' rows := by
  rw [ends_iff_run] at h ⊢
  exact himp _ _ h

end Ends

/-! ## Statements of a program -/

/-- Every statement of the program, whatever the answers, is of a kind. -/
def Asks (good : db.Statement → Prop) : db.Transaction ε ρ → Prop
  | .done _ => True
  | .query statement next => good statement ∧ ∀ answer, (next answer).Asks good

section Asks

variable {good : db.Statement → Prop}

theorem asks_pure (result : ρ) : (pure result : db.Transaction ε ρ).Asks good := trivial

theorem asks_fail (error : ε) : (fail error : db.Transaction ε ρ).Asks good := trivial

theorem asks_ask {statement : db.Statement} (h : good statement) :
    (ask statement : db.Transaction ε _).Asks good := ⟨h, fun _ => trivial⟩

theorem Asks.bind {program : db.Transaction ε ρ} {next : ρ → db.Transaction ε τ}
    (h : program.Asks good) (hnext : ∀ result, (next result).Asks good) :
    (program >>= next).Asks good := by
  induction program with
  | done result =>
      cases result with
      | ok result => exact hnext result
      | error error => trivial
  | query statement rest ih => exact ⟨h.1, fun answer => ih answer (h.2 answer)⟩

/-- What every statement of a kind keeps, a program of such statements keeps. -/
theorem Asks.ends {program : db.Transaction ε ρ} (h : program.Asks good) (rel : σ → σ → Prop)
    (hrefl : ∀ rows, rel rows rows)
    (htrans : ∀ rows rows' rows'', rel rows rows' → rel rows' rows'' → rel rows rows'')
    (hgood : ∀ statement rows, good statement →
      rel rows (db.applyAll rows (db.execute statement rows).2)) (rows : σ) :
    program.Ends (fun _ after => rel rows after) rows := by
  induction program generalizing rows with
  | done result => exact hrefl rows
  | query statement next ih =>
      have hone := hgood statement rows h.1
      exact (ih _ (h.2 _) _).imp fun _ after => htrans rows _ after hone

end Asks

end Transaction

open Transaction

/-! ## Executed statements -/

/-- A statement with its answer and its changes. -/
structure Executed (db : Database σ) where
  statement : db.Statement
  answer : db.Answer statement
  changes : List db.Change

/-- The changes of some statements. -/
def changesOf (executed : List db.Executed) : List db.Change :=
  executed.flatMap Executed.changes

/-- From these rows on, the statements answer and change what they did. -/
def Holds : List db.Executed → σ → Prop
  | [], _ => True
  | one :: rest, rows =>
      db.execute one.statement rows = (one.answer, one.changes) ∧
        Holds rest (db.applyAll rows one.changes)

/-- The executed statements lead from one program to what is left of it. -/
inductive Leads : db.Transaction ε ρ → List db.Executed → db.Transaction ε ρ → Prop where
  | nil (program : db.Transaction ε ρ) : Leads program [] program
  | cons {statement : db.Statement} {next : db.Answer statement → db.Transaction ε ρ}
      (answer : db.Answer statement) (changes : List db.Change) {executed : List db.Executed}
      {rest : db.Transaction ε ρ} (h : Leads (next answer) executed rest) :
      Leads (.query statement next) (⟨statement, answer, changes⟩ :: executed) rest

theorem Leads.snoc {program : db.Transaction ε ρ} {executed : List db.Executed}
    {statement : db.Statement} {next : db.Answer statement → db.Transaction ε ρ}
    (h : Leads program executed (.query statement next)) (answer : db.Answer statement)
    (changes : List db.Change) :
    Leads program (executed ++ [⟨statement, answer, changes⟩]) (next answer) := by
  generalize hrest : Transaction.query statement next = rest at h
  induction h with
  | nil program =>
      subst hrest
      exact .cons answer changes (.nil _)
  | cons answer' changes' _ ih => exact .cons answer' changes' (ih hrest)

/-- Where its statements hold, a program does what was executed and goes on with the rest. -/
theorem Leads.run {program rest : db.Transaction ε ρ} {executed : List db.Executed}
    (h : Leads program executed rest) {rows : σ} (hholds : Holds executed rows) :
    program.run rows = rest.run (db.applyAll rows (changesOf executed)) := by
  induction h generalizing rows with
  | nil program => rfl
  | @cons statement next answer changes executed rest _ ih =>
      obtain ⟨hone, hrest⟩ := hholds
      rw [Transaction.run, hone, ih hrest, changesOf, changesOf, List.flatMap_cons, applyAll_append]

/-! ## Sessions next to each other -/

/-- How a session ended, if it has. -/
inductive Phase (ε ρ : Type) where
  | running
  | ended (result : Except ε ρ)
  | aborted

/-- A transaction on its way. -/
structure Session (db : Database σ) (κ ε ρ : Type) where
  call : κ
  executed : List db.Executed := []
  rest : db.Transaction ε ρ
  phase : Phase ε ρ := .running

/-- The committed rows, all their versions so far, and the sessions. -/
structure Server (db : Database σ) (κ ε ρ : Type) where
  committed : σ
  versions : List σ
  sessions : List (db.Session κ ε ρ) := []

/-- What happens next. A session may lose its connection or be the victim of a deadlock. -/
inductive Event (κ : Type) where
  | begin (call : κ)
  | advance (index : ℕ)
  | finish (index : ℕ)
  | abort (index : ℕ)

variable {κ : Type}

/-- The session is open. -/
def Session.IsOpen (session : db.Session κ ε ρ) : Bool :=
  match session.phase with
  | .running => true
  | _ => false

namespace Server

/-- A server that starts with some rows. -/
def start (rows : σ) : db.Server κ ε ρ where
  committed := rows
  versions := [rows]

/-- Another open session holds a row of one of the changes. -/
def isBlocked (server : db.Server κ ε ρ) (index : ℕ) (changes : List db.Change) : Bool :=
  server.sessions.zipIdx.any fun (other, place) =>
    place ≠ index && other.IsOpen &&
      (changesOf other.executed).any fun held => changes.any fun change => db.conflicts held change

/-- The open session with an index. -/
def open? (server : db.Server κ ε ρ) (index : ℕ) : Option (db.Session κ ε ρ) :=
  match server.sessions[index]? with
  | none => none
  | some session => if session.IsOpen then some session else none

/-- The next statement of a session, unless it has to wait. -/
def advance (server : db.Server κ ε ρ) (index : ℕ) : db.Server κ ε ρ :=
  match server.open? index with
  | none => server
  | some session =>
      match session.rest with
      | .done _ => server
      | .query statement next =>
          let (answer, changes) :=
            db.execute statement (db.applyAll server.committed (changesOf session.executed))
          if server.isBlocked index changes then server
          else
            { server with
              sessions := server.sessions.set index
                { session with
                  executed := session.executed ++ [⟨statement, answer, changes⟩]
                  rest := next answer } }

/-- The session ends with a result. -/
def endSession (server : db.Server κ ε ρ) (index : ℕ) (session : db.Session κ ε ρ)
    (result : Except ε ρ) : db.Server κ ε ρ :=
  { server with sessions := server.sessions.set index { session with phase := .ended result } }

/-- `COMMIT` after a result, `ROLLBACK` after an error. -/
def finish (server : db.Server κ ε ρ) (index : ℕ) : db.Server κ ε ρ :=
  match server.open? index with
  | none => server
  | some session =>
      match session.rest with
      | .query _ _ => server
      | .done (.error error) => server.endSession index session (.error error)
      | .done (.ok result) =>
          let committed := db.applyAll server.committed (changesOf session.executed)
          { server.endSession index session (.ok result) with
            committed := committed
            versions := server.versions ++ [committed] }

/-- A session goes away without a result. -/
def abort (server : db.Server κ ε ρ) (index : ℕ) : db.Server κ ε ρ :=
  match server.open? index with
  | none => server
  | some session =>
      { server with sessions := server.sessions.set index { session with phase := .aborted } }

/-- What an event does; `code` is the program of a call. -/
def step (code : κ → db.Transaction ε ρ) (server : db.Server κ ε ρ) : Event κ → db.Server κ ε ρ
  | .begin call =>
      { server with sessions := server.sessions ++ [{ call := call, rest := code call }] }
  | .advance index => server.advance index
  | .finish index => server.finish index
  | .abort index => server.abort index

end Server

/-! ## Serial orders -/

variable (code : κ → db.Transaction ε ρ)

/-- The call and the result of a session that has ended. -/
def Session.ending (session : db.Session κ ε ρ) : Option (κ × Except ε ρ) :=
  match session.phase with
  | .ended result => some (session.call, result)
  | _ => none

/-- The calls that have ended, with their results. -/
def Server.endings (server : db.Server κ ε ρ) : List (κ × Except ε ρ) :=
  server.sessions.filterMap Session.ending

/-- The rows after another call, run alone. -/
def serialStep (rows : σ) (ending : κ × Except ε ρ) : σ :=
  ((code ending.1).alone rows).2

/-- The call, run alone, gives this result. -/
def SerialResult (rows : σ) (ending : κ × Except ε ρ) : Prop :=
  ((code ending.1).alone rows).1 = ending.2

/-- In some order the calls that have ended, run one after the other from the given rows, give their
results and leave the committed rows. -/
def Serializable (rows : σ) (server : db.Server κ ε ρ) : Prop :=
  ∃ order : List (κ × Except ε ρ), order.Perm server.endings ∧
    Run.AllSteps (serialStep code) (SerialResult code) rows order ∧
      server.committed = Run.run (serialStep code) rows order

/-- The session commits a change when it ends with this result. -/
def Session.CommitsChange (session : db.Session κ ε ρ) (result : Except ε ρ) : Prop :=
  result.isOk = true ∧ changesOf session.executed ≠ []

/-- What the session has read holds of one committed version, and of the present one if it commits a
change. -/
def ReadsHold (server : db.Server κ ε ρ) (session : db.Session κ ε ρ) (result : Except ε ρ) : Prop :=
  ∃ version ∈ server.versions, Holds session.executed version ∧
    (session.CommitsChange result → version = server.committed)

/-- A session ends only with a consistent view of what it has read. -/
def EndsConsistently (server : db.Server κ ε ρ) : Event κ → Prop
  | .finish index => ∀ session result, server.open? index = some session →
      session.rest = .done result → ReadsHold server session result
  | _ => True

/-! ## Consistent runs are serializable -/

/-- The invariant of a consistent run from some rows. -/
structure SerialSoFar (rows : σ) (server : db.Server κ ε ρ) (order : List (κ × Except ε ρ)) : Prop where
  perm : order.Perm server.endings
  serial : Run.AllSteps (serialStep code) (SerialResult code) rows order
  committed : server.committed = Run.run (serialStep code) rows order
  versions : ∀ version ∈ server.versions, ∃ before after, order = before ++ after ∧
    version = Run.run (serialStep code) rows before

/-- Every open session follows its program. -/
def Server.Follows (server : db.Server κ ε ρ) : Prop :=
  ∀ session ∈ server.sessions, session.IsOpen = true →
    Leads (code session.call) session.executed session.rest

variable {code} {server : db.Server κ ε ρ} {index : ℕ} {session : db.Session κ ε ρ}

theorem open?_eq_some (h : server.open? index = some session) :
    server.sessions[index]? = some session ∧ session.IsOpen = true := by
  unfold Server.open? at h
  split at h
  · cases h
  · next found hfound =>
      split_ifs at h with hopen
      cases h
      exact ⟨hfound, hopen⟩

theorem ending_eq_none (h : session.IsOpen = true) : session.ending = none := by
  unfold Session.IsOpen at h
  unfold Session.ending
  cases hphase : session.phase with
  | running => rfl
  | ended result =>
      rw [hphase] at h
      cases h
  | aborted => rfl

/-- An open session in the list contributes no ending; another one in its place adds its own. -/
theorem endings_set {sessions : List (db.Session κ ε ρ)} (hfound : sessions[index]? = some session)
    (hopen : session.IsOpen = true) (session' : db.Session κ ε ρ) :
    ((sessions.set index session').filterMap Session.ending).Perm
      (session'.ending.toList ++ sessions.filterMap Session.ending) := by
  induction sessions generalizing index with
  | nil => cases hfound
  | cons head sessions ih =>
      cases index with
      | zero =>
          cases hfound
          rw [List.set_cons_zero, List.filterMap_cons, List.filterMap_cons, ending_eq_none hopen]
          cases session'.ending <;> rfl
      | succ index =>
          rw [List.set_cons_succ, List.filterMap_cons, List.filterMap_cons]
          have hrest := ih hfound
          cases head.ending with
          | none => exact hrest
          | some ending => exact (hrest.cons ending).trans List.perm_middle.symm

theorem forall_mem_set {α : Type} {p : α → Prop} {items : List α} {item : α}
    (h : ∀ other ∈ items, p other) (hitem : p item) : ∀ other ∈ items.set index item, p other := by
  intro other hother
  rcases List.mem_or_eq_of_mem_set hother with hold | rfl
  · exact h other hold
  · exact hitem

/-- A closed session may take any place. -/
theorem Server.Follows.set_closed (h : server.Follows code) (hclosed : session.IsOpen = false) :
    ∀ other ∈ server.sessions.set index session, other.IsOpen = true →
      Leads (code other.call) other.executed other.rest :=
  forall_mem_set h fun hopen => absurd (hclosed.symm.trans hopen) Bool.noConfusion

theorem follows_step (h : server.Follows code) (event : Event κ) :
    (server.step code event).Follows code := by
  cases event with
  | begin call =>
      intro other hother hopen
      rcases List.mem_append.1 hother with hold | hnew
      · exact h other hold hopen
      · rw [List.mem_singleton.1 hnew]
        exact .nil _
  | advance index =>
      change (server.advance index).Follows code
      unfold Server.advance
      split
      · exact h
      · next session hsession =>
          obtain ⟨hfound, hopen⟩ := open?_eq_some hsession
          split
          · exact h
          · next statement next hrest =>
              dsimp only
              split_ifs
              · exact h
              · have hleads := h session (List.mem_of_getElem? hfound) hopen
                rw [hrest] at hleads
                exact forall_mem_set h fun _ => hleads.snoc _ _
  | finish index =>
      change (server.finish index).Follows code
      unfold Server.finish
      split
      · exact h
      · split
        · exact h
        · exact h.set_closed rfl
        · exact h.set_closed rfl
  | abort index =>
      change (server.abort index).Follows code
      unfold Server.abort
      split
      · exact h
      · exact h.set_closed rfl

/-- Where its statements hold, an open session does what its call does alone. -/
theorem alone_of_holds (h : server.Follows code) (hsession : server.open? index = some session)
    {result : Except ε ρ} (hrest : session.rest = .done result) {rows : σ}
    (hholds : Holds session.executed rows) :
    (code session.call).alone rows =
      (result, if result.isOk then db.applyAll rows (changesOf session.executed) else rows) := by
  obtain ⟨hfound, hopen⟩ := open?_eq_some hsession
  have hleads := h session (List.mem_of_getElem? hfound) hopen
  rw [hrest] at hleads
  have hrun := hleads.run hholds
  unfold Transaction.alone
  rw [hrun]
  cases result with
  | ok result => rfl
  | error error => rfl

/-- What the end of a session does, if it does anything. -/
theorem finish_cases (server : db.Server κ ε ρ) (index : ℕ) :
    server.finish index = server ∨ ∃ session result, server.open? index = some session ∧
      session.rest = .done result ∧
      (server.finish index).sessions =
        server.sessions.set index { session with phase := .ended result } ∧
      (server.finish index).committed = (if result.isOk then
        db.applyAll server.committed (changesOf session.executed) else server.committed) ∧
      ∀ version ∈ (server.finish index).versions,
        version ∈ server.versions ∨ version = (server.finish index).committed := by
  unfold Server.finish
  split
  · exact Or.inl rfl
  · next session hsession =>
      split
      · exact Or.inl rfl
      · next error hrest => exact Or.inr ⟨session, _, hsession, hrest, rfl, rfl, fun _ => Or.inl⟩
      · next result hrest =>
          refine Or.inr ⟨session, _, hsession, hrest, rfl, rfl, fun version hversion => ?_⟩
          exact (List.mem_append.1 hversion).imp_right List.mem_singleton.1

section Serial

variable {rows : σ} {order : List (κ × Except ε ρ)}

/-- A session that has not ended leaves the order alone. -/
theorem SerialSoFar.of_perm (h : SerialSoFar code rows server order) {server' : db.Server κ ε ρ}
    (hendings : server'.endings.Perm server.endings) (hcommitted : server'.committed = server.committed)
    (hversions : server'.versions = server.versions) : SerialSoFar code rows server' order where
  perm := h.perm.trans hendings.symm
  serial := h.serial
  committed := hcommitted.trans h.committed
  versions := by
    rw [hversions]
    exact h.versions

/-- A call that changes nothing on a version takes its place in the order where that version is the
present one. -/
theorem SerialSoFar.insert (h : SerialSoFar code rows server order) {call : κ} {result : Except ε ρ}
    {version : σ} (hversion : version ∈ server.versions)
    (halone : (code call).alone version = (result, version)) {server' : db.Server κ ε ρ}
    (hendings : server'.endings.Perm ((call, result) :: server.endings))
    (hcommitted : server'.committed = server.committed)
    (hversions : ∀ version ∈ server'.versions,
      version ∈ server.versions ∨ version = server'.committed) :
    ∃ order', SerialSoFar code rows server' order' := by
  obtain ⟨before, after, rfl, hat⟩ := h.versions version hversion
  have hstay : serialStep code version (call, result) = version := congrArg Prod.snd halone
  have hrun : ∀ more, Run.run (serialStep code) rows (before ++ (call, result) :: more) =
      Run.run (serialStep code) rows (before ++ more) := by
    intro more
    rw [Run.run_append, Run.run_cons, ← hat, hstay, Run.run_append, ← hat]
  obtain ⟨hbefore, hafter⟩ := Run.allSteps_append.1 h.serial
  refine ⟨before ++ (call, result) :: after, ?_, ?_, ?_, fun other hother => ?_⟩
  · exact List.perm_middle.trans ((h.perm.cons _).trans hendings.symm)
  · refine Run.allSteps_append.2 ⟨hbefore, ?_, ?_⟩
    · rw [← hat]
      exact congrArg Prod.fst halone
    · rw [← hat] at hafter ⊢
      rwa [hstay]
  · rw [hrun, hcommitted, h.committed]
  · rcases hversions other hother with hold | rfl
    · obtain ⟨front, back, hsplit, hvalue⟩ := h.versions other hold
      rcases List.append_eq_append_iff.1 hsplit with ⟨middle, rfl, rfl⟩ | ⟨middle, rfl, rfl⟩
      · refine ⟨before ++ (call, result) :: middle, back, by simp, ?_⟩
        rw [hrun, hvalue]
      · exact ⟨front, middle ++ (call, result) :: after, by simp, hvalue⟩
    · refine ⟨before ++ (call, result) :: after, [], by simp, ?_⟩
      rw [hrun, hcommitted, h.committed]

/-- A call whose statements hold at its commit comes last. -/
theorem SerialSoFar.concat (h : SerialSoFar code rows server order) {call : κ} {result : Except ε ρ}
    {after : σ} (halone : (code call).alone server.committed = (result, after))
    {server' : db.Server κ ε ρ} (hendings : server'.endings.Perm ((call, result) :: server.endings))
    (hcommitted : server'.committed = after)
    (hversions : ∀ version ∈ server'.versions,
      version ∈ server.versions ∨ version = server'.committed) :
    ∃ order', SerialSoFar code rows server' order' := by
  have hrun : Run.run (serialStep code) rows (order ++ [(call, result)]) = server'.committed := by
    rw [Run.run_append, ← h.committed, hcommitted]
    exact congrArg Prod.snd halone
  refine ⟨order ++ [(call, result)], ?_, ?_, hrun.symm, fun other hother => ?_⟩
  · exact (List.perm_append_singleton _ _).trans ((h.perm.cons _).trans hendings.symm)
  · refine Run.allSteps_append.2 ⟨h.serial, ?_, trivial⟩
    rw [← h.committed]
    exact congrArg Prod.fst halone
  · rcases hversions other hother with hold | rfl
    · obtain ⟨front, back, rfl, hvalue⟩ := h.versions other hold
      exact ⟨front, back ++ [(call, result)], by simp, hvalue⟩
    · exact ⟨order ++ [(call, result)], [], by simp, hrun.symm⟩

theorem serialSoFar_finish (h : SerialSoFar code rows server order) (hfollows : server.Follows code)
    (hok : EndsConsistently server (.finish index)) :
    ∃ order', SerialSoFar code rows (server.finish index) order' := by
  rcases finish_cases server index with hsame | ⟨session, result, hsession, hrest, hsessions,
    hcommitted, hversions⟩
  · rw [hsame]
    exact ⟨order, h⟩
  · obtain ⟨hfound, hopen⟩ := open?_eq_some hsession
    obtain ⟨version, hversion, hholds, hpresent⟩ := hok session result hsession hrest
    have halone := alone_of_holds hfollows hsession hrest hholds
    have hendings : (server.finish index).endings.Perm ((session.call, result) :: server.endings) := by
      unfold Server.endings
      rw [hsessions]
      exact endings_set hfound hopen _
    by_cases hchange : session.CommitsChange result
    · obtain rfl := hpresent hchange
      exact h.concat halone hendings hcommitted hversions
    · have hnone : ∀ rows, (if result.isOk then db.applyAll rows (changesOf session.executed)
          else rows) = rows := by
        intro rows
        split_ifs with hresult
        · have hempty : changesOf session.executed = [] :=
            of_not_not fun hne => hchange ⟨hresult, hne⟩
          rw [hempty, applyAll_nil]
        · rfl
      rw [hnone] at halone hcommitted
      exact h.insert hversion halone hendings hcommitted hversions

theorem serialSoFar_step (h : SerialSoFar code rows server order) (hfollows : server.Follows code)
    (event : Event κ) (hok : EndsConsistently server event) :
    ∃ order', SerialSoFar code rows (server.step code event) order' := by
  have hsilent : ∀ {index : ℕ} {session session' : db.Session κ ε ρ},
      server.open? index = some session → session'.ending = none →
        ((server.sessions.set index session').filterMap Session.ending).Perm server.endings := by
    intro index session session' hsession hnone
    obtain ⟨hfound, hopen⟩ := open?_eq_some hsession
    have hset := endings_set hfound hopen session'
    rwa [hnone] at hset
  cases event with
  | begin call =>
      refine ⟨order, h.of_perm ?_ rfl rfl⟩
      change ((server.sessions ++ [_]).filterMap Session.ending).Perm server.endings
      rw [List.filterMap_append]
      exact List.Perm.of_eq (List.append_nil _)
  | advance index =>
      refine ⟨order, ?_⟩
      change SerialSoFar code rows (server.advance index) order
      unfold Server.advance
      split
      · exact h
      · next session hsession =>
          have hopen := (open?_eq_some hsession).2
          split
          · exact h
          · dsimp only
            split_ifs
            · exact h
            · refine h.of_perm (hsilent hsession ?_) rfl rfl
              exact ending_eq_none hopen
  | finish index => exact serialSoFar_finish h hfollows hok
  | abort index =>
      refine ⟨order, ?_⟩
      change SerialSoFar code rows (server.abort index) order
      unfold Server.abort
      split
      · exact h
      · next session hsession => exact h.of_perm (hsilent hsession rfl) rfl rfl

theorem follows_start : (Server.start rows : db.Server κ ε ρ).Follows code := by
  intro session hsession
  exact absurd hsession List.not_mem_nil

theorem serialSoFar_start : SerialSoFar code rows (Server.start rows) [] where
  perm := .refl _
  serial := trivial
  committed := rfl
  versions := fun _ hversion => ⟨[], [], rfl, List.mem_singleton.1 hversion⟩

/-- A run in which every session ends with a consistent view of what it has read is serializable at every
moment. -/
theorem serializable_of_allSteps {events : List (Event κ)}
    (hok : Run.AllSteps (Server.step code) EndsConsistently (.start rows) events) :
    Run.AllStates (Server.step code) (Serializable code rows) (.start rows) events := by
  have hkeep : ∀ (server : db.Server κ ε ρ) (event : Event κ),
      (server.Follows code ∧ ∃ order, SerialSoFar code rows server order) →
        EndsConsistently server event → (server.step code event).Follows code ∧
          ∃ order, SerialSoFar code rows (server.step code event) order := by
    rintro server event ⟨hfollows, order, h⟩ hevent
    exact ⟨follows_step hfollows event, serialSoFar_step h hfollows event hevent⟩
  have hall := Run.allStates_of_step hkeep ⟨follows_start, [], serialSoFar_start⟩ hok
  intro done hdone
  obtain ⟨-, order, h⟩ := hall done hdone
  exact ⟨order, h.perm, h.serial, h.committed⟩

/-- An event of a consistent run leaves the committed rows alone, or it ends a session and commits what
the call of the session does alone. -/
theorem committed_step (hfollows : server.Follows code) (event : Event κ)
    (hok : EndsConsistently server event) :
    (server.step code event).committed = server.committed ∨
      ∃ index session, event = .finish index ∧ server.open? index = some session ∧
        (server.step code event).committed = ((code session.call).alone server.committed).2 := by
  cases event with
  | begin call => exact Or.inl rfl
  | advance index =>
      refine Or.inl ?_
      change (server.advance index).committed = _
      unfold Server.advance
      split
      · rfl
      · split
        · rfl
        · dsimp only
          split_ifs <;> rfl
  | finish index =>
      rcases finish_cases server index with hsame | ⟨session, result, hsession, hrest, -, hcommitted, -⟩
      · exact Or.inl (congrArg _ hsame)
      · obtain ⟨version, -, hholds, hpresent⟩ := hok session result hsession hrest
        by_cases hchange : session.CommitsChange result
        · obtain rfl := hpresent hchange
          refine Or.inr ⟨index, session, rfl, hsession, hcommitted.trans ?_⟩
          rw [alone_of_holds hfollows hsession hrest hholds]
        · refine Or.inl (hcommitted.trans ?_)
          split_ifs with hresult
          · have hempty : changesOf session.executed = [] :=
              of_not_not fun hne => hchange ⟨hresult, hne⟩
            rw [hempty, applyAll_nil]
          · rfl
  | abort index =>
      refine Or.inl ?_
      change (server.abort index).committed = _
      unfold Server.abort
      split <;> rfl

/-- What the calls of some sessions keep when they run alone, the events of a consistent run keep, but for
the ends of the other sessions. -/
theorem keeps_of_allSteps (rel : σ → σ → Prop) (hrefl : ∀ rows, rel rows rows) (spared : κ → Prop)
    (halone : ∀ call rows, ¬ spared call → rel rows ((code call).alone rows).2)
    {events : List (Event κ)}
    (hok : Run.AllSteps (Server.step code) EndsConsistently (.start rows) events) :
    Run.AllSteps (Server.step code) (fun server event =>
      (∀ index session, event = .finish index → server.open? index = some session →
        ¬ spared session.call) → rel server.committed (server.step code event).committed)
      (.start rows) events := by
  have hstart : (Server.start rows : db.Server κ ε ρ).Follows code := follows_start
  refine Run.AllSteps.of_invariant (fun server event hfollows hevent => ?_) hstart hok
  refine ⟨follows_step hfollows event, fun hspared => ?_⟩
  rcases committed_step hfollows event hevent with hsame | ⟨index, session, rfl, hsession, hcommitted⟩
  · rw [hsame]
    exact hrefl _
  · rw [hcommitted]
    exact halone session.call _ (hspared index session rfl hsession)

end Serial

end Database
