import RecordFilter.Row
import RecordFilter.Statement

set_option autoImplicit false

namespace RecordFilter

variable {m : Type → Type} {ρ α : Type}

structure Client (m : Type → Type) (ρ : Type) where
  query : Statement → ExceptT Error m (List ρ)

namespace Client

variable [Monad m]

def first? (client : Client m ρ) (statement : Statement) : ExceptT Error m (Option ρ) :=
  return (← client.query statement).head?

def first (client : Client m ρ) (statement : Statement) : ExceptT Error m ρ := do
  match ← client.first? statement with
  | some row => return row
  | none => throw (.notFound "Expected one row, got none")

end Client

namespace Query

variable [Monad m]

def rows (query : Query) (client : Client m ρ) : ExceptT Error m (List ρ) := client.query query.select

def fetchAll (query : Query) (client : Client m ρ) (record : ρ → Except Error α) : ExceptT Error m (List α) := do
  ExceptT.mk (pure ((← query.rows client).mapM record))

def fetchFirst (query : Query) (client : Client m ρ) (record : ρ → Except Error α) : ExceptT Error m α := do
  ExceptT.mk (pure (record (← client.first query.select)))

def fetchFirst? (query : Query) (client : Client m ρ) (record : ρ → Except Error α) : ExceptT Error m (Option α) := do
  match ← client.first? query.select with
  | some row => return some (← ExceptT.mk (pure (record row)))
  | none => return none

def countRows (query : Query) (client : Client m ρ) (reader : RowReader ρ Int64) : ExceptT Error m Int64 := do
  ExceptT.mk (pure (reader.column "count" (← client.first query.count)))

end Query

end RecordFilter
