import ScatterGather.Document.Record

/-!
# Transactions of a session

The engine asks one thing of a transaction: whether a statement that changes tables may run now. It
may not while a distributed transaction is active.
-/

namespace ScatterGather

/-- The kind of a transaction. -/
inductive TransactionType where
  | local
  | xa
  | base
deriving DecidableEq, Inhabited, Repr

instance : Named TransactionType where
  all := [.local, .xa, .base]
  name
    | .local => "local"
    | .xa => "xa"
    | .base => "base"

/-- A session's transaction: its kind, and whether it has begun and not ended. -/
structure Transaction where
  type : TransactionType
  active : Bool
deriving DecidableEq, Inhabited, Repr

namespace Transaction

/-- A transaction that has not begun. -/
def ofType (type : TransactionType) : Transaction := ⟨type, false⟩

/-- Begins. -/
def begin (t : Transaction) : Transaction := { t with active := true }

/-- Ends with the changes kept. -/
def commit (t : Transaction) : Transaction := { t with active := false }

/-- Ends with the changes undone. -/
def rollback (t : Transaction) : Transaction := { t with active := false }

/-- What the owner of a transaction does with it. -/
inductive Move where
  | begin
  | commit
  | rollback
deriving DecidableEq, Inhabited, Repr

/-- The transaction after a move. -/
def moved (t : Transaction) : Move → Transaction
  | .begin => t.begin
  | .commit => t.commit
  | .rollback => t.rollback

/-- A statement that changes tables may run. -/
def allowsDdl (t : Transaction) : Bool := !(t.type = .xa && t.active)

end Transaction

end ScatterGather
