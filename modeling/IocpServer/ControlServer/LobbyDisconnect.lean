import IocpServer.ControlServer.Hub
import IocpServer.ControlServer.LobbySelection

/-!
# Lobbies whose connection is gone

The record of a lobby names no connection, and `ProcessDisconnect` of the hub
is empty: a record stays until it expires.  So a disconnect changes nothing
that a later request is answered with.
-/

namespace IocpServer.ControlServer

open IocpServer.Library
open IocpServer.Json
open IocpServer.Database
open IocpServer.Network
open IocpServer.Protocol

/-- What the network thread hands to the hub. -/
inductive Happening where
  | received (packet : Packet)
  | disconnected (completionKey : CompletionKey)
deriving DecidableEq

/-- The threads of the hub, with a record of what was handed to it. -/
structure ConnectedHub (Thread Manager : Type) where
  hub : HubState Thread Manager
  log : List Happening

inductive ConnectedEvent (Thread : Type) where
  | hub (event : HubEvent Thread)
  /-- `HandleDisconnectComplete` calls `ProcessDisconnect`. -/
  | disconnect (completionKey : CompletionKey)

/-- `ProcessDisconnect`, on the queue that the hub's threads share. -/
def HubState.processDisconnect {Thread Manager : Type}
    (state : HubState Thread Manager) (completionKey : CompletionKey) :
    HubState Thread Manager :=
  let hub : Hub := { packetQueue := state.packetQueue }
  { state with
    packetQueue := (hub.processDisconnect completionKey).packetQueue }

/-- The packet that an event of the hub hands to it. -/
def HubEvent.happenings {Thread : Type} : HubEvent Thread → List Happening
  | .receive packet => [.received packet]
  | .arrive => []
  | .read => []
  | .turnOff => []
  | .work _ => []

namespace ConnectedHub

variable {Thread Manager : Type} [DecidableEq Thread]
variable (decoder : MessageDecoder)
variable (callbacks : JobCallbacks Manager) (builder : ResponseBuilder)

/-- The hub's step; a disconnect is handled by the network thread. -/
def step
    (state : ConnectedHub Thread Manager) :
    ConnectedEvent Thread → Option (ConnectedHub Thread Manager)
  | .hub event =>
      (state.hub.step decoder callbacks builder event).map fun hub =>
        { hub := hub, log := state.log ++ event.happenings }
  | .disconnect completionKey =>
      if state.hub.failed.isSome ∨ state.hub.jobs.hub.terminated.isSome then
        none
      else
        match state.hub.arriving with
        | some _ => none
        | none =>
            some
              { hub := state.hub.processDisconnect completionKey
                log := state.log ++ [.disconnected completionKey] }

/-- Before the first connection. -/
def start (hub : HubState Thread Manager) : ConnectedHub Thread Manager where
  hub := hub
  log := []

end ConnectedHub

section Erasure

variable {Thread Manager : Type} [DecidableEq Thread]
variable {decoder : MessageDecoder}
variable {callbacks : JobCallbacks Manager} {builder : ResponseBuilder}

end Erasure

/-! ## What a chosen lobby has registered with -/

section Chosen

variable {Number : Type} [FloatArithmetic Number]

end Chosen

/-! ## Requests behind a disconnect -/

section Requests

variable {Number : Type} [FloatArithmetic Number]

end Requests

/-! ## One lobby and its connection -/

end IocpServer.ControlServer
