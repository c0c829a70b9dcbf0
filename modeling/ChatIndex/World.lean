import ChatIndex.Engine.Memory
import ChatIndex.Program
import ChatIndex.ReadModel.Tables

/-! # A world to run programs in

The reference engine and the reference tables together, with requests that fail on demand.  A
fault is kept for each name of a request: it lets some requests pass, makes the next ones fail
and lets all later ones pass again.  A request that fails does nothing.
-/

namespace ChatIndex

/-- A failure on demand: after `skip` requests that pass, the next `times` ones fail, or all
that follow where `times` is missing. -/
structure Fault (ε : Type) where
  error : ε
  skip : Nat
  times : Option Nat
deriving DecidableEq, Repr, Inhabited

/-- Whether the next request fails, and what is left of the fault. -/
def Fault.next {ε : Type} (f : Fault ε) : Option ε × Fault ε :=
  match f.skip, f.times with
  | skip + 1, _ => (none, { f with skip })
  | 0, none => (some f.error, f)
  | 0, some 0 => (none, f)
  | 0, some (times + 1) => (some f.error, { f with times := some times })

/-- Faults by the name of the request that fails. -/
abbrev Faults (ε : Type) : Type :=
  KeyMap (Fault ε)

/-- Whether the next request of a name fails, and what is left of the faults. -/
def Faults.next {ε : Type} (faults : Faults ε) (name : String) : Option ε × Faults ε :=
  match faults.get? name with
  | none => (none, faults)
  | some fault => (fault.next.1, faults.insert name fault.next.2)

/-- The engine, the read model, and the faults of both. -/
structure World where
  memory : Memory
  tables : Tables
  engineFaults : Faults EngineError
  storeFaults : Faults StoreError
deriving Inhabited

namespace World

/-- A world with nothing in it. -/
def empty : World :=
  ⟨.empty, .empty, .empty, .empty⟩

/-- The answer of the engine, unless the request fails on demand. -/
def answerEngine (c : EngineCall) (w : World) : Except EngineError c.Value × World :=
  match w.engineFaults.next c.name with
  | (some e, faults) => (.error e, { w with engineFaults := faults })
  | (none, faults) =>
    let (answer, memory) := w.memory.answer c
    (answer, { w with memory, engineFaults := faults })

/-- The answer of the read model, unless the question fails on demand. -/
def answerRead (c : ReadCall) (w : World) : Except StoreError c.Value × World :=
  match w.storeFaults.next c.name with
  | (some e, faults) => (.error e, { w with storeFaults := faults })
  | (none, faults) => (w.tables.answer c, { w with storeFaults := faults })

/-- Answers requests of both kinds. -/
def handler : Handler Call Call.Answer World
  | .engine c, w => answerEngine c w
  | .read c, w => answerRead c w

end World

end ChatIndex
