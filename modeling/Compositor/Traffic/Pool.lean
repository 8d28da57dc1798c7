/-! # Worker pools

A pool runs the items of batches with at most so many of all batches at once.  An
item that fails does not stop the others: a batch is over when all its items have
ended, and then either every item's value or every failure is reported.

What happens in a pool is a sequence of steps.  A batch is submitted; an item gets a
place and enters its task; the task ends; the item makes its entries, one at a time,
and gives its place back.  When all items of a batch have ended, the batch looks at
them in turn and then reports.  Between two steps of an item others may take any
number of steps: the steps may come in any order that `Pool.step?` allows.
-/

namespace Compositor

/-- How the task of an item ended. -/
inductive ItemEnd (α : Type) where
  | value (x : α)
  | error (message : String)
  /-- The task broke off; the text says how. -/
  | panic (message : String)
deriving DecidableEq

/-- What is entered about an item. -/
inductive PoolEntry where
  /-- An item was processed. -/
  | processed
  /-- An item failed. -/
  | failed
  /-- The batch has a failure more, with this message. -/
  | failure (message : String)
deriving DecidableEq

/-- Where an item of a batch is. -/
inductive ItemState (α : Type) where
  | waiting
  /-- It is inside its task. -/
  | running
  /-- The task has ended, and these entries are left to be made. -/
  | leaving (result : ItemEnd α) (entries : List PoolEntry)
  | ended (result : ItemEnd α)
deriving DecidableEq

/-- An item that failed, with its position in the batch. -/
structure ItemFailure where
  index : Nat
  message : String
deriving DecidableEq

/-- A batch with failed items. -/
structure BatchError where
  /-- The number of all items. -/
  total : Nat
  /-- The failures by position. -/
  failures : List ItemFailure
deriving DecidableEq

/-- The error's text: how many failed, and the first failure. -/
def BatchError.message (e : BatchError) : String :=
  toString e.failures.length ++ " of " ++ toString e.total ++ " items failed; first: "
    ++ (e.failures.head?.map (·.message)).getD ""

namespace ItemEnd

variable {α : Type}

/-- The value of an item that has one. -/
def value? : ItemEnd α → Option α
  | value x => some x
  | _ => none

/-- What is reported of an item without a value. -/
def message? : ItemEnd α → Option String
  | value _ => none
  | error message => some message
  | panic message => some ("task panicked: " ++ message)

/-- The task broke off. -/
def isPanic : ItemEnd α → Bool
  | panic _ => true
  | _ => false

/-- The entries that an item makes itself.  A task that breaks off takes the item with it. -/
def entries : ItemEnd α → List PoolEntry
  | value _ => [.processed]
  | error message => [.processed, .failed, .failure message]
  | panic _ => []

/-- The entries that the batch makes for an item when it looks at it. -/
def lateEntries : ItemEnd α → List PoolEntry
  | panic message => [.failed, .failure ("task panicked: " ++ message)]
  | _ => []

end ItemEnd

/-- What a pool says about itself. -/
structure PoolStatus where
  name : String
  /-- The items that are running. -/
  active : Nat
  maxConcurrent : Nat
  /-- The items whose task came to its end. -/
  totalProcessed : Nat
  /-- The items without a value. -/
  totalFailed : Nat
deriving DecidableEq

/-- The account after an entry. -/
def PoolStatus.enter (s : PoolStatus) : PoolEntry → PoolStatus
  | .processed => { s with totalProcessed := s.totalProcessed + 1 }
  | .failed => { s with totalFailed := s.totalFailed + 1 }
  | .failure _ => s

/-- A batch. -/
structure Batch (α : Type) where
  items : List (ItemState α)
  /-- The failures in the order in which they were entered. -/
  failures : List ItemFailure
  /-- The values of the items that were looked at; an item that failed has none. -/
  outputs : List (Option α)
  result : Option (Except BatchError (List α))

namespace Batch

variable {α : Type}

/-- A batch of items that wait. -/
def ofSize (n : Nat) : Batch α := ⟨List.replicate n .waiting, [], [], none⟩

/-- Changes the state of an item. -/
def setItem (b : Batch α) (item : Nat) (s : ItemState α) : Batch α :=
  { b with items := b.items.set item s }

/-- The batch after an entry about an item. -/
def enter (b : Batch α) (item : Nat) : PoolEntry → Batch α
  | .failure message => { b with failures := b.failures ++ [⟨item, message⟩] }
  | _ => b

/-- The batch after a look at the next item. -/
def look (b : Batch α) (result : ItemEnd α) : Batch α :=
  { b with outputs := b.outputs ++ [result.value?] }

/-- All items have ended. -/
def isOver (b : Batch α) : Bool :=
  b.items.all fun
    | .ended _ => true
    | _ => false

/-- The report of a batch whose items were all looked at. -/
def report (b : Batch α) : Except BatchError (List α) :=
  match b.failures with
  | [] => .ok (b.outputs.filterMap id)
  | failures => .error ⟨b.items.length, failures.mergeSort fun f g => decide (f.index ≤ g.index)⟩

end Batch

/-- A pool with its counters and batches. -/
structure Pool (α : Type) where
  status : PoolStatus
  /-- The places that are free. -/
  free : Nat
  batches : List (Batch α)

/-- A step of a pool. -/
inductive PoolStep (α : Type) where
  /-- A batch of so many items comes in. -/
  | submit (size : Nat)
  /-- An item takes a place and enters its task. -/
  | start (batch item : Nat)
  /-- The task of an item ends. -/
  | finish (batch item : Nat) (result : ItemEnd α)
  /-- An item whose task has ended makes its next entry, or gives its place back. -/
  | settle (batch item : Nat)
  /-- A batch whose items have all ended looks at the next one, or reports. -/
  | join (batch : Nat)

namespace PoolStep

variable {α : Type}

/-- The steps of an item from the end of its task on. -/
def ending (batch item : Nat) (result : ItemEnd α) : List (PoolStep α) :=
  .finish batch item result
    :: List.replicate (if result.isPanic then 0 else result.entries.length + 1) (.settle batch item)

/-- The steps of a batch of so many items after all have ended. -/
def joining (batch size : Nat) : List (PoolStep α) := List.replicate (size + 1) (.join batch)

end PoolStep

namespace Pool

variable {α : Type}

/-- A pool without batches.  A limit of zero counts as one. -/
def ofLimit (name : String) (limit : Nat) : Pool α :=
  ⟨⟨name, 0, max limit 1, 0, 0⟩, max limit 1, []⟩

/-- Where an item is. -/
def item? (p : Pool α) (batch item : Nat) : Option (ItemState α) :=
  p.batches[batch]?.bind fun b => b.items[item]?

/-- Changes a batch. -/
def modifyBatch (p : Pool α) (batch : Nat) (f : Batch α → Batch α) : Pool α :=
  { p with batches := p.batches.modify batch f }

/-- Changes the state of an item. -/
def setItem (p : Pool α) (batch item : Nat) (s : ItemState α) : Pool α :=
  p.modifyBatch batch fun b => b.setItem item s

/-- Makes an entry about an item. -/
def enter (p : Pool α) (batch item : Nat) (entry : PoolEntry) : Pool α :=
  { p.modifyBatch batch fun b => b.enter item entry with status := p.status.enter entry }

/-- A batch whose items have all ended looks at the next one; after the last it reports. -/
def joinNext (p : Pool α) (batch : Nat) (b : Batch α) : Pool α :=
  let item := b.outputs.length
  match b.items[item]? with
  | some (.ended result) =>
    (result.lateEntries.foldl (fun p entry => p.enter batch item entry) p).modifyBatch batch
      fun b => b.look result
  | _ => p.modifyBatch batch fun b => { b with result := some b.report }

/-- Takes a step, if it is possible.  An item that breaks off is never counted as
    processed and stays counted as active; its failure is counted by the batch. -/
def step? (p : Pool α) : PoolStep α → Option (Pool α)
  | .submit size => some { p with batches := p.batches ++ [Batch.ofSize size] }
  | .start batch item =>
    match p.item? batch item with
    | some .waiting =>
      if 0 < p.free then
        some
          { p.setItem batch item .running with
            status := { p.status with active := p.status.active + 1 }
            free := p.free - 1 }
      else none
    | _ => none
  | .finish batch item result =>
    match p.item? batch item with
    | some .running =>
      -- The place is free again although the counters stay as they are.
      if result.isPanic then
        some { p.setItem batch item (.ended result) with free := p.free + 1 }
      else
        some
          { p.setItem batch item (.leaving result result.entries) with
            status := { p.status with active := p.status.active - 1 } }
    | _ => none
  | .settle batch item =>
    match p.item? batch item with
    | some (.leaving result (entry :: entries)) =>
      some ((p.setItem batch item (.leaving result entries)).enter batch item entry)
    | some (.leaving result []) =>
      some { p.setItem batch item (.ended result) with free := p.free + 1 }
    | _ => none
  | .join batch =>
    match p.batches[batch]? with
    | some b => if b.isOver && b.result.isNone then some (p.joinNext batch b) else none
    | none => none

/-- Takes steps in turn; those that are not possible are passed over. -/
def steps (p : Pool α) (ss : List (PoolStep α)) : Pool α :=
  ss.foldl (fun p s => (p.step? s).getD p) p

/-- The report of a batch, once there is one. -/
def result? (p : Pool α) (batch : Nat) : Option (Except BatchError (List α)) :=
  p.batches[batch]?.bind Batch.result

/-- Runs tasks as one batch, one after the other, over a state of the world. -/
def runInTurn {τ σ : Type} (p : Pool α) (task : τ → σ → ItemEnd α × σ) (items : List τ)
    (world : σ) : Except BatchError (List α) × Pool α × σ :=
  let batch := p.batches.length
  let rec go (p : Pool α) (index : Nat) (world : σ) : List τ → Pool α × σ
    | [] => (p.steps (PoolStep.joining batch index), world)
    | x :: xs =>
      let (e, world) := task x world
      go (p.steps (.start batch index :: PoolStep.ending batch index e)) (index + 1) world xs
  let (p, world) := go (p.steps [.submit items.length]) 0 world items
  ((p.result? batch).getD (.ok []), p, world)

end Pool

end Compositor
