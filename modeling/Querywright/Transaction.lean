import Querywright.Router

/-! A transaction on one connection of a primary. The connection is taken for the whole life of
the transaction; it is given back by the one commit or rollback that ends it, and closed when
that statement fails. -/
namespace Querywright

structure Transaction where
  place : Place
  connection : Nat
  active : Bool
deriving DecidableEq, Repr

inductive Ending where
  | commit
  | rollback
deriving DecidableEq, Repr

def Ending.statement : Ending → String
  | .commit => "COMMIT"
  | .rollback => "ROLLBACK"

namespace Transaction

variable {σ : Type}

def begin (engine : Engine σ) (router : Router) (world : World σ) :
    Except Error Transaction × Router × World σ :=
  match router.lend engine true world with
  | (.error reason, router, world) => (.error reason, router, world)
  | (.ok (place, connection), router, world) =>
    match router.act place (Pool.run engine connection (.text "BEGIN") (.tuple [])) world with
    | (.error reason, router, world) =>
      (.error reason, router.giveBack engine place connection true world)
    | (.ok _, router, world) => (.ok ⟨place, connection, true⟩, router, world)

def execute (engine : Engine σ) (transaction : Transaction) (statement parameters : Value)
    (router : Router) (world : World σ) : Except Error Report × Router × World σ :=
  if !transaction.active then (.error .transactionOver, router, world)
  else match parameters.items with
    | .error reason => (.error reason, router, world)
    | .ok _ =>
      router.act transaction.place
        (Pool.run engine transaction.connection statement parameters) world

/-- Ends the transaction, whether or not the last statement succeeds. -/
def finish (engine : Engine σ) (ending : Ending) (transaction : Transaction) (router : Router)
    (world : World σ) : Except Error Unit × Transaction × Router × World σ :=
  if !transaction.active then (.error .transactionOver, transaction, router, world)
  else
    let ended := { transaction with active := false }
    let (result, router, world) := router.act transaction.place
      (Pool.run engine transaction.connection (.text ending.statement) (.tuple [])) world
    match result with
    | .error reason =>
      (.error reason, ended,
        router.giveBack engine transaction.place transaction.connection true world)
    | .ok _ =>
      (.ok (), ended,
        router.giveBack engine transaction.place transaction.connection false world)

/-- Leaving a block ends its transaction unless that has been done: with a commit, or with a
rollback when the block failed. -/
def leave (engine : Engine σ) (failed : Bool) (transaction : Transaction) (router : Router)
    (world : World σ) : Except Error Unit × Transaction × Router × World σ :=
  if transaction.active then
    transaction.finish engine (if failed then .rollback else .commit) router world
  else (.ok (), transaction, router, world)

end Transaction
end Querywright
