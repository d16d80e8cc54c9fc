import WhereClause.Entities

/-! What calls about entities send.

`Executor.recorded` keeps a record of the statements that an executor is sent, whatever becomes of
them. Seen through it, every call either fails before anything is sent or sends a single statement,
and what it gives back is made of the answer to that statement alone. The statements of all calls
for one predicate differ only in their heads.
-/

set_option autoImplicit false

namespace WhereClause

inductive Sent where
  | query (statement : Statement)
  | scalar (statement : Statement)
  | execute (statement : Statement)

variable {m : Type → Type} [Monad m] {α β : Type}

/-- Put a statement behind those of a log, also if the answer is an error. -/
def Sent.record (sent : Sent) (answer : ExceptT Error m α) :
    ExceptT Error (StateT (List Sent) m) α :=
  ExceptT.mk fun log => (fun result => (result, log ++ [sent])) <$> answer.run

def Executor.recorded (executor : Executor m) : Executor (StateT (List Sent) m) where
  dialect := executor.dialect
  query statement := (Sent.query statement).record (executor.query statement)
  scalar statement := (Sent.scalar statement).record (executor.scalar statement)
  execute statement := (Sent.execute statement).record (executor.execute statement)

namespace Entities

def recorded (entities : Entities m) : Entities (StateT (List Sent) m) where
  executor := entities.executor.recorded
  schema := entities.schema
  membership := entities.membership

def Head.sent : Head → Statement → Sent
  | .rows => .query
  | .count => .scalar
  | .delete => .execute

/-- The calls for one predicate, by the answer that they ask for and by what they give back. -/
inductive Request : (answer result : Type) → Type where
  | fetch : Request (List Row) (List Row)
  | first : Request (List Row) Row
  | single : Request (List Row) Row
  | count : Request Int Int
  | existence : Request Int Bool
  | delete : Request Nat Nat

namespace Request

def run (entities : Entities m) (entity : String) (predicate : Predicate) :
    Request α β → ExceptT Error m β
  | .fetch => entities.fetch entity predicate
  | .first => entities.first entity predicate
  | .single => entities.single entity predicate
  | .count => entities.count entity predicate
  | .existence => entities.existsRow entity predicate
  | .delete => entities.delete entity predicate

def head : Request α β → Head
  | .fetch => .rows
  | .first => .rows
  | .single => .rows
  | .count => .count
  | .existence => .count
  | .delete => .delete

def ask (executor : Executor m) : Request α β → Statement → ExceptT Error m α
  | .fetch => executor.query
  | .first => executor.query
  | .single => executor.query
  | .count => executor.scalar
  | .existence => executor.scalar
  | .delete => executor.execute

def conclude : Request α β → α → Except Error β
  | .fetch, rows => .ok rows
  | .first, [] => .error .notFound
  | .first, row :: _ => .ok row
  | .single, [] => .error .notFound
  | .single, [row] => .ok row
  | .single, rows => .error (.notSingle rows.length)
  | .count, number => .ok number
  | .existence, number => .ok (0 < number)
  | .delete, number => .ok number

end Request

/-- The statement for a table and a condition: the head, the quoted table and the condition in the
placeholders of the executor. -/
def written (entities : Entities m) (head : Head) (table : String) (condition : Condition) :
    Statement where
  sql := head.sql ++ " " ++ entities.style.quote table ++ " " ++ condition.native entities.style
  params := condition.params

def perform (entities : Entities m) (entity : String) (compiled : Except Error Condition)
    (head : Head) (ask : Statement → ExceptT Error m α) (conclude : α → Except Error β) :
    ExceptT Error m β := do
  let condition ← compiled
  let statement ← entities.statement head entity condition
  let answer ← ask statement
  conclude answer

/-- A call fails and sends nothing where there is no condition or no table. Otherwise it sends one
statement, made of the table, the condition and its parameters, and concludes from the answer; an
error in place of the answer is passed on. The record changes nothing else. -/
structure Sends (entities : Entities m) (entity : String) (compiled : Except Error Condition)
    (head : Head) (ask : Statement → ExceptT Error m α) (conclude : α → Except Error β)
    (call : ExceptT Error m β) (recorded : ExceptT Error (StateT (List Sent) m) β) : Prop where
  uncompiled : ∀ issue log, compiled = .error issue → recorded.run.run log = pure (.error issue, log)
  undefined : ∀ condition log, compiled = .ok condition →
    entities.schema.containsEntity entity = false →
    recorded.run.run log = pure (.error (.unknownEntity entity), log)
  sent : ∀ condition log, compiled = .ok condition →
    entities.schema.containsEntity entity = true →
    ∃ table, entities.schema.tableName entity = .ok table ∧
      let statement := entities.written head table condition
      recorded.run.run log =
        (fun answer => (answer >>= conclude, log ++ [head.sent statement])) <$> (ask statement).run
  unrecorded : ∀ log, Prod.fst <$> recorded.run.run log = call.run

section Performed

variable {entity : String} {compiled : Except Error Condition} {head : Head}

theorem liftM_ok (value : α) :
    (liftM (Except.ok value : Except Error α) : ExceptT Error m α) = pure value := rfl

theorem liftM_error (issue : Error) :
    (liftM (Except.error issue : Except Error α) : ExceptT Error m α) = throw issue := rfl

theorem Request.ask_recorded (entities : Entities m) (request : Request α β) (statement : Statement) :
    request.ask entities.recorded.executor statement =
      (request.head.sent statement).record (request.ask entities.executor statement) := by
  cases request <;> rfl

theorem exists_tableName {schema : Schema} (known : schema.containsEntity entity = true) :
    ∃ table, schema.tableName entity = .ok table := by
  obtain ⟨info, found⟩ := Option.isSome_iff_exists.mp known
  exact ⟨info.table, by simp only [Schema.tableName, Schema.entity, found]; rfl⟩

theorem tableName_unknown {schema : Schema} (missing : schema.containsEntity entity = false) :
    schema.tableName entity = .error (.unknownEntity entity) := by
  have absent : schema.entities.lookup entity = none := by
    simpa [Schema.containsEntity] using missing
  simp only [Schema.tableName, Schema.entity, absent]
  rfl

variable [LawfulMonad m]

theorem perform_conclude (entities : Entities m) (ask : Statement → ExceptT Error m α)
    (conclude : α → Except Error β) :
    entities.perform entity compiled head ask conclude =
      entities.perform entity compiled head ask .ok >>= fun answer => liftM (conclude answer) := by
  simp only [perform, bind_assoc, liftM_ok, pure_bind]

/-- Every call for one predicate takes the shared steps. -/
theorem Request.run_eq (entities : Entities m) (predicate : Predicate) (request : Request α β) :
    request.run entities entity predicate = entities.perform entity
      (entities.mapping.condition entity predicate) request.head (request.ask entities.executor)
      request.conclude := by
  have asked {answer : Type} (head : Head) (ask : Statement → ExceptT Error m answer) :
      (do ask (← entities.statementFor head entity predicate)) =
        entities.perform entity (entities.mapping.condition entity predicate) head ask .ok := by
    simp only [perform, statementFor, liftM_bind, bind_assoc, liftM_ok, bind_pure]
  have fetched := asked .rows entities.executor.query
  have counted := asked .count entities.executor.scalar
  rw [perform_conclude]
  cases request with
  | fetch => exact fetched.trans (bind_pure _).symm
  | first =>
    refine (congrArg (· >>= _) fetched).trans (bind_congr fun rows => ?_)
    cases rows <;> rfl
  | single =>
    refine (congrArg (· >>= _) fetched).trans (bind_congr fun rows => ?_)
    match rows with
    | [] => rfl
    | [row] => rfl
    | _ :: _ :: _ => rfl
  | count => exact counted.trans (bind_pure _).symm
  | existence => exact congrArg (· >>= _) counted
  | delete => exact (asked .delete entities.executor.execute).trans (bind_pure _).symm

theorem fetchAny_eq (entities : Entities m) (word : Word) (predicates : List Predicate) :
    entities.fetchAny entity word predicates = entities.perform entity
      (entities.mapping.conditionAll entity word predicates) .rows entities.executor.query .ok := by
  simp only [fetchAny, perform, liftM_ok, bind_pure]

theorem perform_uncompiled (entities : Entities m) (issue : Error)
    (ask : Statement → ExceptT Error m α) (conclude : α → Except Error β) :
    entities.perform entity (.error issue) head ask conclude = throw issue := by
  apply ExceptT.ext
  simp [perform, liftM_error]

theorem perform_undefined (entities : Entities m) (condition : Condition)
    (missing : entities.schema.containsEntity entity = false)
    (ask : Statement → ExceptT Error m α) (conclude : α → Except Error β) :
    entities.perform entity (.ok condition) head ask conclude = throw (.unknownEntity entity) := by
  have failed : entities.statement head entity condition = .error (.unknownEntity entity) := by
    rw [statement, tableName_unknown missing]
    rfl
  apply ExceptT.ext
  simp [perform, liftM_ok, failed, liftM_error]

theorem perform_sent (entities : Entities m) (condition : Condition) {table : String}
    (found : entities.schema.tableName entity = .ok table)
    (ask : Statement → ExceptT Error m α) (conclude : α → Except Error β) :
    entities.perform entity (.ok condition) head ask conclude =
      ask (entities.written head table condition) >>= fun answer => liftM (conclude answer) := by
  have made : entities.statement head entity condition = .ok (entities.written head table condition) := by
    rw [statement, found]
    rfl
  rw [perform, liftM_ok, pure_bind, made, liftM_ok, pure_bind]

theorem run_conclude (answer : ExceptT Error m α) (conclude : α → Except Error β) :
    (answer >>= fun value => liftM (conclude value)).run = (· >>= conclude) <$> answer.run := by
  rw [ExceptT.run_bind, map_eq_pure_bind]
  apply bind_congr
  intro result
  cases result <;> rfl

theorem record_bind (sent : Sent) (answer : ExceptT Error m α) (conclude : α → Except Error β)
    (log : List Sent) :
    (sent.record answer >>= fun value => liftM (conclude value)).run.run log =
      (fun result => (result >>= conclude, log ++ [sent])) <$> answer.run := by
  rw [run_conclude, StateT.run_map]
  exact Functor.map_map _ _ _

theorem sends_perform (entities : Entities m) {ask : Statement → ExceptT Error m α}
    {record : Statement → ExceptT Error (StateT (List Sent) m) α} (conclude : α → Except Error β)
    (records : ∀ statement, record statement = (head.sent statement).record (ask statement)) :
    entities.Sends entity compiled head ask conclude
      (entities.perform entity compiled head ask conclude)
      (entities.recorded.perform entity compiled head record conclude) where
  uncompiled issue log failed := by
    rw [failed, perform_uncompiled]
    rfl
  undefined condition log done missing := by
    rw [done, perform_undefined entities.recorded condition missing]
    rfl
  sent condition log done known := by
    obtain ⟨table, found⟩ := exists_tableName known
    refine ⟨table, found, ?_⟩
    rw [done, perform_sent entities.recorded condition found, records, record_bind]
    rfl
  unrecorded log := by
    have thrown (issue : Error) : Prod.fst <$> (throw issue : ExceptT Error (StateT (List Sent) m) β).run.run
        log = (throw issue : ExceptT Error m β).run := map_pure _ _
    cases compiled with
    | error issue =>
      rw [perform_uncompiled, perform_uncompiled]
      exact thrown issue
    | ok condition =>
      cases known : entities.schema.containsEntity entity with
      | false =>
        rw [perform_undefined entities.recorded condition known, perform_undefined entities condition known]
        exact thrown _
      | true =>
        obtain ⟨table, found⟩ := exists_tableName known
        rw [perform_sent entities.recorded condition found, perform_sent entities condition found, records,
          record_bind, run_conclude, Functor.map_map]
        rfl

end Performed

/-- Every call about an entity fails before anything is sent, or sends one statement: its head, the
quoted table and the condition of the predicate, which all calls for a predicate have in common.
A single row is given back exactly if one came, and rows exist exactly if more than none is counted. -/
theorem requests_send_once [LawfulMonad m] (entities : Entities m) (entity : String) :
    (∀ {answer result : Type} (request : Request answer result) (predicate : Predicate),
      entities.Sends entity (entities.mapping.condition entity predicate) request.head
        (request.ask entities.executor) request.conclude (request.run entities entity predicate)
        (request.run entities.recorded entity predicate)) ∧
    (∀ (word : Word) (predicates : List Predicate),
      entities.Sends entity (entities.mapping.conditionAll entity word predicates) .rows
        entities.executor.query .ok (entities.fetchAny entity word predicates)
        (entities.recorded.fetchAny entity word predicates)) ∧
    (∀ rows row, Request.single.conclude rows = .ok row ↔ rows = [row]) ∧
    ∀ predicate, entities.existsRow entity predicate =
      (fun number => decide (0 < number)) <$> entities.count entity predicate := by
  refine ⟨fun request predicate => ?_, fun word predicates => ?_, fun rows row => ?_, fun predicate => ?_⟩
  · rw [Request.run_eq, Request.run_eq]
    exact entities.sends_perform _ (Request.ask_recorded entities request)
  · rw [fetchAny_eq, fetchAny_eq]
    exact entities.sends_perform .ok fun _ => rfl
  · match rows with
    | [] => simp [Request.conclude]
    | [only] => simp [Request.conclude]
    | _ :: _ :: _ => simp [Request.conclude]
  · rw [map_eq_pure_bind]
    rfl

/-- A table that a delete cannot change, a row too many, and calls that do not get as far as a
statement. -/
theorem requests_send_once_refused :
    let rows : List Row := [[("age", .null)], [("age", .null)]]
    let entities : Entities Id := {
      executor := {
        dialect := .sqlServer
        query _ := pure rows
        scalar _ := pure 2
        execute _ := throw (.execution "locked") }
      schema := { entities := [("Dog", {
        table := "dogs", columns := [("age", { column := "years", converter := none })] })] } }
    let older : Predicate := .compare .gt (.field ["age"]) (.constant (.int 3) .int)
    let constant : Predicate := .truth (.constant (.bool true) .bool)
    (Request.delete.run entities.recorded "Dog" older).run.run [] = (.error (.execution "locked"),
        [.execute { sql := "DELETE FROM [dogs] WHERE [years] > @p1", params := [.int 3] }]) ∧
      (Request.single.run entities.recorded "Dog" older).run.run [] = (.error (.notSingle 2),
        [.query { sql := "SELECT * FROM [dogs] WHERE [years] > @p1", params := [.int 3] }]) ∧
      (Request.existence.run entities.recorded "Dog" older).run.run [] = (.ok true,
        [.scalar { sql := "SELECT COUNT(*) FROM [dogs] WHERE [years] > @p1", params := [.int 3] }]) ∧
      (Request.count.run entities.recorded "Cat" constant).run.run [] =
        (.error (.unknownEntity "Cat"), []) ∧
      (entities.recorded.fetchAny "Dog" .or []).run.run [] =
        (.error (.unsupported .nothingToCombine), []) := by
  intro rows entities older constant
  obtain ⟨one, any, -⟩ := requests_send_once entities "Dog"
  obtain ⟨unknown, -⟩ := requests_send_once entities "Cat"
  refine ⟨?_, ?_, ?_, ?_, ?_⟩
  · obtain ⟨_, ⟨⟩, sent⟩ := (one .delete older).sent _ [] rfl rfl
    exact sent
  · obtain ⟨_, ⟨⟩, sent⟩ := (one .single older).sent _ [] rfl rfl
    exact sent
  · obtain ⟨_, ⟨⟩, sent⟩ := (one .existence older).sent _ [] rfl rfl
    exact sent
  · exact (unknown .count constant).undefined _ [] rfl rfl
  · exact (any .or []).uncompiled _ [] rfl

end Entities

end WhereClause
