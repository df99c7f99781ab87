/-
# The device service, one command after another

The service keeps the token in memory and in the database, and it alone writes either.
While it handles a command it performs its handler's operations one by one; the rest of
the daemon acts on the rest of the world in between. `before` remembers what was in
memory when the command was taken.
-/

import Modvpn.Daemon.Device
import Modvpn.Protocol.TransitionSystem

namespace Modvpn

open Modvpn.Protocol

namespace World

/-- What `get_token` answers. -/
def storedToken (world : World) : Option String := world.token.head?.map (·.token)

/-- Tokens in memory and in the database are untouched. -/
def SameTokens (world moved : World) : Prop :=
  moved.token = world.token ∧ moved.tokenSequence = world.tokenSequence ∧
    moved.serviceToken = world.serviceToken

instance : DecidableRel SameTokens := fun world moved =>
  inferInstanceAs (Decidable (moved.token = world.token ∧
    moved.tokenSequence = world.tokenSequence ∧ moved.serviceToken = world.serviceToken))

end World

structure ServiceLoop where
  world : World
  /-- What is left of the handler, while there is one. -/
  handler : Option (Async Unit)
  before : Option String

inductive ServiceLabel
  | handleMessage (command : DeviceCommand)
  | perform (env : Env)
  /-- Others act on the rest of the world. -/
  | elsewhere (moved : World)

namespace ServiceLoop

/-- A handler that has returned is done with; one that panicked ends the service. -/
def handlerAfter (program : Async Unit) : Option (Async Unit) :=
  match program with
  | .pure _ => none
  | .perform _ _ | .panic _ => some program

def step (codecs : Codecs) (loop : ServiceLoop) : ServiceLabel → Option ServiceLoop
  | .handleMessage command =>
      match loop.handler with
      | none => some { loop with
          handler := some (DeviceService.handleMessage codecs command)
          before := loop.world.serviceToken }
      | some _ => none
  | .perform env =>
      match loop.handler with
      | some (.perform op next) =>
          let answered := World.answer op env loop.world
          some { loop with world := answered.2, handler := handlerAfter (next answered.1) }
      | _ => none
  | .elsewhere moved =>
      if loop.world.SameTokens moved then some { loop with world := moved } else none

/-- `DeviceService::new` has read the token. -/
def system (codecs : Codecs) : TransitionSystem ServiceLoop ServiceLabel where
  Init loop := loop.handler = none ∧ loop.world.serviceToken = loop.world.storedToken ∧
    ∀ row ∈ loop.world.token, row.id ≤ loop.world.tokenSequence
  step := step codecs

/-- The next operation of the handler. -/
def nextOp (loop : ServiceLoop) : Option Op := loop.handler.bind (·.nextOp)

/-- Memory and database have the same token. -/
def Agrees (world : World) : Prop := world.serviceToken = world.storedToken

instance (world : World) : Decidable (Agrees world) := inferInstanceAs (Decidable (_ = _))

/-- Between two commands the tokens agree, and when a handler is about to answer with an
error, both are as they were before the command. -/
def Consistent (loop : ServiceLoop) : Prop :=
  (loop.handler = none → Agrees loop.world) ∧
    ∀ error, loop.nextOp = some (.respond (.done (.error error))) →
      loop.world.serviceToken = loop.before ∧ loop.world.storedToken = loop.before

end ServiceLoop

end Modvpn
